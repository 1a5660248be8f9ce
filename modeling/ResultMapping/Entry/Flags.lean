/-!
# Role flags

The roles of an entry as a set of bits. Two bits are known; the others may be carried along but
have no meaning, and a set that was read from outside has none of them.
-/

namespace ResultMapping

structure Flags where
  bits : UInt8
deriving DecidableEq, Repr

namespace Flags

def empty : Flags := ⟨0⟩

/-- The entry is part of a row's identity. -/
def id : Flags := ⟨1⟩

/-- The entry is a constructor argument and not a settable property. -/
def constructor : Flags := ⟨2⟩

/-- All known flags. -/
def all : Flags := ⟨3⟩

instance : Inhabited Flags := ⟨empty⟩

def union (a b : Flags) : Flags := ⟨a.bits ||| b.bits⟩

def inter (a b : Flags) : Flags := ⟨a.bits &&& b.bits⟩

def symmDiff (a b : Flags) : Flags := ⟨a.bits ^^^ b.bits⟩

def sdiff (a b : Flags) : Flags := ⟨a.bits &&& ~~~b.bits⟩

/-- The known flags among some bits. -/
def truncate (bits : UInt8) : Flags := ⟨bits &&& all.bits⟩

/-- The known flags that are not set. -/
def compl (a : Flags) : Flags := truncate (~~~a.bits)

def contains (a b : Flags) : Bool := a.bits &&& b.bits == b.bits

def intersects (a b : Flags) : Bool := a.bits &&& b.bits != 0

def isEmpty (a : Flags) : Bool := a.bits == 0

def isAll (a : Flags) : Bool := a.contains all

/-- Whether no bit is set beyond the known ones. -/
def isKnown (a : Flags) : Bool := all.contains a

/-- The bits as flags, unless one of them is unknown. -/
def ofBits? (bits : UInt8) : Option Flags :=
  if isKnown ⟨bits⟩ then some ⟨bits⟩ else none

end Flags

end ResultMapping
