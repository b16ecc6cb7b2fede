import ScriptMetadata.Text

/-!
Kernel signatures: one bit for each kind of argument that a kernel may take. The description lists
the arguments by name and shows all other bits in hexadecimal, so nothing of a signature is lost.
-/

set_option autoImplicit false

namespace ScriptMetadata.Signature

inductive Flag where
  | input
  | output
  | userData
  | x
  | y
  | kernel
  deriving DecidableEq

namespace Flag

/-- All flags, the lowest bit first. -/
def all : List Flag := [input, output, userData, x, y, kernel]

def mask : Flag → UInt32
  | input => 0x01
  | output => 0x02
  | userData => 0x04
  | x => 0x08
  | y => 0x10
  | kernel => 0x20

def label : Flag → String
  | input => "in"
  | output => "out"
  | userData => "usr_data"
  | x => "x"
  | y => "y"
  | kernel => "kernel"

end Flag

def hasFlag (signature : UInt32) (flag : Flag) : Bool := signature &&& flag.mask ≠ 0

/-- The bits that belong to a flag. -/
def flagMask : UInt32 := 0x3F

def unnamedBits (signature : UInt32) : UInt32 := signature &&& ~~~flagMask

/-- The names of the flags, then the other bits if any is set. -/
def parts (signature : UInt32) : List (List Char) :=
  let named := (Flag.all.filter (hasFlag signature)).map fun flag => flag.label.toList
  if unnamedBits signature = 0 then named
  else named ++ [ '+' :: Text.markedHexadecimal 1 (unnamedBits signature).toNat ]

def describe (signature : UInt32) : List Char :=
  if (parts signature).isEmpty then "none".toList
  else ['|'].intercalate (parts signature)

/-- What holds of the names of flags and of signed numbers holds of every part. -/
theorem forall_mem_parts {holds : List Char → Prop}
    (labels : ∀ flag ∈ Flag.all, holds flag.label.toList)
    (numbers : ∀ value, holds ('+' :: Text.markedHexadecimal 1 value)) (signature : UInt32) :
    ∀ part ∈ parts signature, holds part := by
  have named : ∀ part ∈ (Flag.all.filter (hasFlag signature)).map fun flag => flag.label.toList,
      holds part := by
    intro part member
    obtain ⟨flag, listed, rfl⟩ := List.mem_map.1 member
    exact labels flag (List.mem_filter.1 listed).1
  unfold parts
  split
  · exact named
  · exact List.forall_mem_append.2 ⟨named, List.forall_mem_singleton.2 (numbers _)⟩

end ScriptMetadata.Signature
