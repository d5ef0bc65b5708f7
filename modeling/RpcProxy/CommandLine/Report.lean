import RpcProxy.CommandLine.Arguments
import RpcProxy.Config.Reading
import RpcProxy.Routing.Table

namespace RpcProxy.CommandLine

-- Why a file cannot be read.
inductive FileProblem
  | missing
  | denied
  | notDirectory
  | isDirectory
  -- Its bytes are not UTF-8.
  | notText
  | other (text : String)
  deriving DecidableEq, Repr

def FileProblem.message : FileProblem → String
  | missing      => "No such file or directory (os error 2)"
  | denied       => "Permission denied (os error 13)"
  | notDirectory => "Not a directory (os error 20)"
  | isDirectory  => "Is a directory (os error 21)"
  | notText      => "stream did not contain valid UTF-8"
  | other text   => text

-- Why there is no route table.
inductive Failure
  | file (path : String) (problem : FileProblem)
  | config (problem : Config.Problem)
  | routes (path : String) (e : TableError)
  deriving Repr

namespace Failure

-- Each text is explained by the next one.
def reasons : Failure → List String
  | file path problem => ["failed to read " ++ path, problem.message]
  | config problem    => [Config.Router.problemMessage problem]
  | routes path e     => ["invalid routes in " ++ path, e.message, e.cause.message]

def message (f : Failure) : String :=
  ": ".intercalate f.reasons

end Failure

-- The configuration in a file, and its route table.
def load (path : String) (content : Except FileProblem String) :
    Except Failure (Config.Router × RouteTable) := do
  let text ← content.mapError (.file path)
  let config ← (Config.Router.parse text).mapError .config
  let table ← (RouteTable.ofConfig config.routes).mapError (.routes path)
  return (config, table)

structure Report where
  code       : Nat
  output     : List String := []
  complaint? : Option String := none
  deriving DecidableEq, Repr

namespace Report

def failed (f : Failure) : Report :=
  { code := 1, complaint? := some ("error: " ++ f.message) }

def noRoute : Report :=
  { code := 2, output := ["no route"] }

end Report

namespace Query

-- The call that a query asks about.
def message (q : Query) : Message :=
  { Message.call q.method with headers := HeaderMap.ofList q.headers }

end Query

def criterionLine (entry : String × Json) : String :=
  "metadata_match: " ++ entry.1 ++ "=" ++ entry.2.render

-- Where a call goes, line by line. The method is shown as the cluster will see it, if a service may have
-- to be stripped.
def routeLines (message : Message) (route : Destination) : List String :=
  ["cluster: " ++ route.cluster] ++
  message.service?.toList.map ("service: " ++ ·) ++
  (if route.stripService then ["upstream method: " ++ message.stripService.1.method] else []) ++
  (route.criteria.toList.flatMap (·.entries)).map criterionLine ++
  (if route.rateLimits.isEmpty then [] else ["rate limits: configured"])

namespace Command

def checkLine (config : Config.Router) (table : RouteTable) : String :=
  "ok: route table '" ++ table.name ++ "' with " ++ toString table.size ++ " rule(s), stat prefix '" ++
    config.statPrefix ++ "'"

def report (config : Config.Router) (table : RouteTable) : Command → Report
  | .check _       => { code := 0, output := [checkLine config table] }
  | .route _ query =>
    match table.route? query.message query.random with
    | some target => { code := 0, output := routeLines query.message target }
    | none        => .noRoute

-- Runs a command on the content of its file.
def run (command : Command) (content : Except FileProblem String) : Report :=
  match load command.path content with
  | .ok (config, table) => command.report config table
  | .error f            => .failed f

end Command

namespace Stop

def usage : List String :=
  ["Usage: rpc-proxy-routes [--log-format <pretty|json>] check <CONFIG>",
   "       rpc-proxy-routes [--log-format <pretty|json>] route <CONFIG> --method <METHOD>",
   "                        [--header <NAME=VALUE>]... [--random <RANDOM>]"]

-- Help is an answer. Arguments that cannot be used are not.
def report : Stop → Report
  | help => { code := 0, output := usage }
  | stop => { code := 2, complaint? := some ("\n".intercalate (("error: " ++ stop.message) :: usage)) }

end Stop

end RpcProxy.CommandLine
