import RpcProxy.CommandLine.Report

namespace RpcProxy.CommandLine

def FileProblem.ofError : IO.Error → FileProblem
  | .noFileOrDirectory _ _ _        => .missing
  | .permissionDenied _ _ _         => .denied
  | .inappropriateType (some _) _ _ => .notDirectory
  -- A directory can be opened but not read, and a failure to read names no file.
  | .inappropriateType none _ _     => .isDirectory
  | e                               => .other (toString e)

def readContent (path : String) : IO (Except FileProblem String) := do
  try
    match String.fromUTF8? (← IO.FS.readBinFile path) with
    | some text => return .ok text
    | none      => return .error .notText
  catch e => return .error (.ofError e)

def reportOf (args : List String) : IO Report := do
  match Invocation.ofArguments args with
  | .ok invocation => return invocation.command.run (← readContent invocation.command.path)
  | .error stop    => return stop.report

end RpcProxy.CommandLine

def main (args : List String) : IO UInt32 := do
  let report ← RpcProxy.CommandLine.reportOf args
  report.output.forM IO.println
  report.complaint?.forM IO.eprintln
  return report.code.toUInt32
