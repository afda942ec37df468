/-!
# The kill ring

Killed texts are kept in a ring of sixty slots, with a current slot. A kill right after another
kill grows the current slot's text: a forward kill at its end, a backward kill at its start. Any
other kill moves to the next slot, past the last one back to the first, and fills it.

Yanking inserts the text of the current slot. Right after a yank, yank-pop replaces the text
just yanked with the text of the slot before, and again after that one, around the ring.
-/

namespace ScriptLex.Terminal

/-- What the last command did to the ring. -/
inductive RingAction where
  | kill
  /-- A yank of a text of this many characters. -/
  | yank (size : Nat)
  | other
  deriving DecidableEq, Repr, Inhabited

/-- The killed texts, the current slot and what the last command did. -/
structure KillRing where
  slots : List (List Char) := []
  index : Nat := 0
  last : RingAction := .other
  deriving Repr, Inhabited

/-- The number of slots of the ring. -/
def killRingSize : Nat := 60

namespace KillRing

/-- Forgets what the last command did, so that the next kill takes a new slot. -/
def reset (k : KillRing) : KillRing := { k with last := .other }

/-- Records a killed text, forward or backward. -/
def kill (k : KillRing) (forward : Bool) (t : List Char) : KillRing :=
  if k.last == .kill then
    { k with slots := k.slots.modify k.index fun s => if forward then s ++ t else t ++ s }
  else
    let index :=
      if k.index + 1 == killRingSize then 0
      else if k.slots.isEmpty then k.index else k.index + 1
    let slots := if index == k.slots.length then k.slots ++ [t] else k.slots.set index t
    { slots, index, last := .kill }

/-- The text of the current slot to yank, if there is one. -/
def yank (k : KillRing) : Option (KillRing × List Char) :=
  match k.slots[k.index]? with
  | some t => some ({ k with last := .yank t.length }, t)
  | none => none

/-- Right after a yank: the size of the text yanked and the text of the slot before. -/
def yankPop (k : KillRing) : Option (KillRing × Nat × List Char) :=
  match k.last with
  | .yank size =>
    if k.slots.isEmpty then none
    else
      let index := if k.index == 0 then k.slots.length - 1 else k.index - 1
      let t := k.slots.getD index []
      some ({ k with index, last := .yank t.length }, size, t)
  | _ => none

end KillRing

end ScriptLex.Terminal
