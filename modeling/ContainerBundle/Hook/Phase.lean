/-!
# Phases of a container's life

Hooks run before the container's process starts, after it has started and after it has ended.
-/
namespace ContainerBundle

inductive Phase
  | prestart
  | poststart
  | poststop
  deriving DecidableEq, Repr

namespace Phase

def label : Phase → String
  | prestart => "prestart"
  | poststart => "poststart"
  | poststop => "poststop"

def all : List Phase := [prestart, poststart, poststop]

def ofLabel? (label : String) : Option Phase := all.find? (fun phase => phase.label == label)

end Phase

end ContainerBundle
