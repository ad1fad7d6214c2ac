/-! # Kinds of device and of memory

The two classifications everything else rests on: what class of device an agent
is, and what segment a memory region belongs to.
-/

namespace ComputeTopology

inductive DeviceClass where
  | cpu
  | gpu
  | other
deriving DecidableEq

namespace DeviceClass

def all : List DeviceClass := [.cpu, .gpu, .other]

def label : DeviceClass → String
  | .cpu => "CPU"
  | .gpu => "GPU"
  | .other => "Other"

def name : DeviceClass → String
  | .cpu => "cpu"
  | .gpu => "gpu"
  | .other => "other"

def ofName? (name : String) : Option DeviceClass :=
  all.find? (·.name == name)

end DeviceClass

inductive Segment where
  /-- Device memory or host memory. -/
  | global
  /-- Memory shared by a work group. -/
  | group
  | priv
  | readOnly
  /-- Reported, but none of the others. -/
  | unknown
deriving DecidableEq

namespace Segment

def all : List Segment := [.global, .group, .priv, .readOnly, .unknown]

def name : Segment → String
  | .global => "global"
  | .group => "group"
  | .priv => "private"
  | .readOnly => "readonly"
  | .unknown => "unknown"

def ofName? (name : String) : Option Segment :=
  all.find? (·.name == name)

end Segment

end ComputeTopology
