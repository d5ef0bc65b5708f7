namespace RpcProxy

inductive Counter
  | routeMissing
  | unknownCluster
  | maintenanceMode
  | noHealthyHost
  -- Calls that were given to a cluster, by their kind.
  | requestCall
  | requestOneway
  | requestInvalidKind
  -- Complete responses of a cluster, by their kind; replies also by their outcome.
  | responseReply
  | replySuccess
  | replyError
  | responseException
  | responseInvalidKind
  deriving DecidableEq, Repr

namespace Counter

def all : List Counter :=
  [routeMissing, unknownCluster, maintenanceMode, noHealthyHost, requestCall, requestOneway,
    requestInvalidKind, responseReply, replySuccess, replyError, responseException,
    responseInvalidKind]

def name : Counter → String
  | routeMissing        => "route_missing"
  | unknownCluster      => "unknown_cluster"
  | maintenanceMode     => "upstream_rq_maintenance_mode"
  | noHealthyHost   => "no_healthy_upstream"
  | requestCall         => "upstream_rq_call"
  | requestOneway       => "upstream_rq_oneway"
  | requestInvalidKind  => "upstream_rq_invalid_type"
  | responseReply       => "upstream_resp_reply"
  | replySuccess        => "upstream_resp_success"
  | replyError          => "upstream_resp_error"
  | responseException   => "upstream_resp_exception"
  | responseInvalidKind => "upstream_resp_invalid_type"

end Counter

inductive Histogram
  -- In bytes.
  | requestSize
  | responseSize
  -- From the end of the request to the end of the response.
  | requestTime
  deriving DecidableEq, Repr

namespace Histogram

def all : List Histogram :=
  [requestSize, responseSize, requestTime]

def name : Histogram → String
  | requestSize  => "upstream_rq_size"
  | responseSize => "upstream_resp_size"
  | requestTime  => "upstream_rq_time"

end Histogram

-- A statistic as it is exported: under a name with the configured scope in front, and with the cluster
-- as a label where it belongs to one.
structure Metric where
  name   : String
  labels : List (String × String)
  deriving DecidableEq, Repr

namespace Metric

def named (scope stat : String) (cluster? : Option String) : Metric :=
  ⟨scope ++ "." ++ stat, cluster?.toList.map (("cluster", ·))⟩

def ofCounter (scope : String) (counter : Counter) (cluster? : Option String) : Metric :=
  named scope counter.name cluster?

def ofHistogram (scope : String) (histogram : Histogram) (cluster : String) : Metric :=
  named scope histogram.name (some cluster)

end Metric

end RpcProxy
