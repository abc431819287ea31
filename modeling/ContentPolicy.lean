import ContentPolicy.Session
import ContentPolicy.Main
import ContentPolicy.Proofs.Kinds
import ContentPolicy.Proofs.Resolution
import ContentPolicy.Proofs.CleanReport
import ContentPolicy.Proofs.SourceClass
import ContentPolicy.Proofs.Headers
import ContentPolicy.Proofs.Hosts
import ContentPolicy.Proofs.Matching
import ContentPolicy.Proofs.Bypasses
import ContentPolicy.Proofs.NewerVersions
import ContentPolicy.Proofs.Reading
import ContentPolicy.Proofs.RoundTrip
import ContentPolicy.Proofs.Deprecation
import ContentPolicy.Proofs.PerPolicy
import ContentPolicy.Proofs.Grounds
import ContentPolicy.Proofs.FirstMention
import ContentPolicy.Proofs.Spelling
import ContentPolicy.Proofs.Totality
import ContentPolicy.Proofs.Caching
import ContentPolicy.Proofs.Memory
import ContentPolicy.Proofs.Isolation
import ContentPolicy.Proofs.StrictPolicy
import ContentPolicy.Proofs.Distinct
import ContentPolicy.Proofs.Idempotence
import ContentPolicy.Proofs.CacheHistory
import ContentPolicy.Proofs.Output
import ContentPolicy.Proofs.InlineScripts
import ContentPolicy.Proofs.MissingDirectives
import ContentPolicy.Proofs.FirstMatch
import ContentPolicy.Proofs.BroaderSource
import ContentPolicy.Proofs.RootPath
import ContentPolicy.Proofs.QuotedHosts
import ContentPolicy.Proofs.Fallback
import ContentPolicy.Proofs.PlainHttp
import ContentPolicy.Proofs.Verdicts
import ContentPolicy.Proofs.EachValue
import ContentPolicy.Proofs.MissingTicks
import ContentPolicy.Proofs.SchemeFree
import ContentPolicy.Proofs.IpSources
import ContentPolicy.Proofs.Records
import ContentPolicy.Proofs.EffectiveNames
import ContentPolicy.Proofs.Normalization
