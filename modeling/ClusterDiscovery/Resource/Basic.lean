/-! # Cluster resources

The objects that the cluster's interface serves, as far as discovery reads them. A field that an
object may leave out is optional. -/

namespace ClusterDiscovery

structure ObjectMeta where
  name : Option String
  inNamespace : Option String
  labels : Option (List (String × String))
  annotations : Option (List (String × String))
  uid : Option String
deriving Repr, DecidableEq

structure TargetRef where
  kind : Option String
  name : Option String
  inNamespace : Option String
  uid : Option String
deriving Repr, DecidableEq

structure EndpointAddress where
  ip : String
  hostname : Option String
  nodeName : Option String
  targetRef : Option TargetRef
deriving Repr, DecidableEq

structure ResourcePort where
  name : Option String
  port : Int
  protocol : Option String
deriving Repr, DecidableEq

structure EndpointSubset where
  addresses : Option (List EndpointAddress)
  notReadyAddresses : Option (List EndpointAddress)
  ports : Option (List ResourcePort)
deriving Repr, DecidableEq

/-- Where the pods of a service are reached. -/
structure Endpoints where
  metadata : Option ObjectMeta
  subsets : Option (List EndpointSubset)
deriving Repr, DecidableEq

structure ServiceSpec where
  type : Option String
  clusterIp : Option String
  ports : Option (List ResourcePort)
deriving Repr, DecidableEq

structure Service where
  metadata : Option ObjectMeta
  spec : Option ServiceSpec
deriving Repr, DecidableEq

structure PodStatus where
  podIp : Option String
deriving Repr, DecidableEq

structure Pod where
  metadata : Option ObjectMeta
  status : Option PodStatus
deriving Repr, DecidableEq

end ClusterDiscovery
