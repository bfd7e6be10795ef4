/-!
Names of directory entries. A name is a row of bytes that need not be those of a text.
-/

namespace ProseScript

structure FileName where
  bytes : List UInt8
  deriving DecidableEq, Repr

namespace FileName

def ofString (s : String) : FileName := ⟨s.toByteArray.data.toList⟩

instance : Coe String FileName := ⟨ofString⟩

/-- The name as a text, if its bytes are those of one. -/
def text? (n : FileName) : Option String := String.fromUTF8? ⟨n.bytes.toArray⟩

section Shown

/-- The beginning of a character: the number that its bytes make so far, how many are to come, and
the bounds of the next one. -/
structure Begun where
  code : Nat
  left : Nat
  low : UInt8
  high : UInt8

/-- What the first byte of a character begins. The bounds leave out numbers that take fewer bytes
and numbers of no character. -/
def lead? (b : UInt8) : Option Begun :=
  if 0xC2 ≤ b && b ≤ 0xDF then some ⟨b.toNat % 0x20, 1, 0x80, 0xBF⟩
  else if b == 0xE0 then some ⟨0x0, 2, 0xA0, 0xBF⟩
  else if b == 0xED then some ⟨0xD, 2, 0x80, 0x9F⟩
  else if 0xE1 ≤ b && b ≤ 0xEF then some ⟨b.toNat % 0x10, 2, 0x80, 0xBF⟩
  else if b == 0xF0 then some ⟨0x0, 3, 0x90, 0xBF⟩
  else if 0xF1 ≤ b && b ≤ 0xF3 then some ⟨b.toNat % 0x8, 3, 0x80, 0xBF⟩
  else if b == 0xF4 then some ⟨0x4, 3, 0x80, 0x8F⟩
  else none

/-- Stands where bytes make no character. -/
def replacement : Char := '\uFFFD'

/-- What is shown for a byte that begins anew, and what it begins. -/
def showFirst (b : UInt8) : List Char × Option Begun :=
  if b < 0x80 then ([Char.ofNat b.toNat], none)
  else
    match lead? b with
    | some p => ([], some p)
    | none => ([replacement], none)

/-- What is shown for a byte after the beginning of a character, and what is begun behind it. -/
def showNext (p : Begun) (b : UInt8) : List Char × Option Begun :=
  if p.low ≤ b && b ≤ p.high then
    let code := p.code * 0x40 + b.toNat % 0x40
    if p.left = 1 then ([Char.ofNat code], none) else ([], some ⟨code, p.left - 1, 0x80, 0xBF⟩)
  else
    let (shown, begun) := showFirst b
    (replacement :: shown, begun)

def shownFrom (begun : Option Begun) : List UInt8 → List Char
  | [] => if begun.isSome then [replacement] else []
  | b :: rest =>
      let (shown, begun) := match begun with
        | some p => showNext p b
        | none => showFirst b
      shown ++ shownFrom begun rest

/-- The name as it is shown: a replacement stands for each longest run of bytes that begins a
character and does not end it, and for each byte that begins none. -/
def shown (n : FileName) : String := n.text?.getD (String.ofList (shownFrom none n.bytes))

end Shown

section Order

/-- Names are ordered by their bytes. -/
instance : LE FileName := ⟨fun a b => a.bytes ≤ b.bytes⟩

instance : LT FileName := ⟨fun a b => a.bytes < b.bytes⟩

instance (a b : FileName) : Decidable (a ≤ b) := inferInstanceAs (Decidable (a.bytes ≤ b.bytes))

instance (a b : FileName) : Decidable (a < b) := inferInstanceAs (Decidable (a.bytes < b.bytes))

theorem ext_bytes {a b : FileName} (h : a.bytes = b.bytes) : a = b := by
  cases a
  cases b
  exact congrArg mk h

instance : Std.IsLinearOrder FileName where
  le_refl a := Std.le_refl a.bytes
  le_trans a b c (hab : a.bytes ≤ b.bytes) (hbc : b.bytes ≤ c.bytes) :=
    Std.IsPreorder.le_trans a.bytes b.bytes c.bytes hab hbc
  le_antisymm _ _ hab hba := ext_bytes (Std.le_antisymm (α := List UInt8) hab hba)
  le_total _ _ := Std.le_total (α := List UInt8)

instance : Std.LawfulOrderLT FileName where
  lt_iff a b := Std.LawfulOrderLT.lt_iff a.bytes b.bytes

end Order

end FileName

end ProseScript
