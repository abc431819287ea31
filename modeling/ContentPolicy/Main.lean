import ContentPolicy.CommandLine.Request

open ContentPolicy in
def main (arguments : List String) : IO UInt32 := do
  match CommandLine.parse arguments with
  | .error e => IO.eprintln e.message; return 1
  | .ok request =>
    match (CommandLine.evaluate {} .start request).findings with
    | .error (.usage e) => IO.eprintln e.message; return 1
    | .error (.setting _) => return 1
    | .ok findings => IO.print (Report.render request.color findings); return 0
