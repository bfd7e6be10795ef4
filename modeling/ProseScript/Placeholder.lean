import ProseScript.Store

/-!
Placeholders in sentences: an underscore, letters or digits with at most one period after the first
of them, and an underscore. Each is replaced in place by one drawn word, and the search goes on
behind the word.
-/

namespace ProseScript.Placeholder

/-- A sentence is a row of plain characters and placeholders. -/
inductive Piece where
  | plain (c : Char)
  | slot (token : List Char)
  deriving DecidableEq, Repr

/-- The token at the front of a text, if an underscore closes it. -/
def token? (cs : List Char) : Option (List Char) :=
  let front := cs.takeWhile Char.isAlphanum
  if front.isEmpty then none
  else match cs.dropWhile Char.isAlphanum with
    | '_' :: _ => some front
    | '.' :: rest =>
        match rest.dropWhile Char.isAlphanum with
        | '_' :: _ => some (front ++ '.' :: rest.takeWhile Char.isAlphanum)
        | _ => none
    | _ => none

/-- A token is what stands before the underscore that closes it. -/
theorem eq_append_of_token? {cs token : List Char} (h : token? cs = some token) :
    ∃ rest, cs = token ++ '_' :: rest := by
  have hwhole := List.takeWhile_append_dropWhile (p := Char.isAlphanum) (l := cs)
  simp only [token?] at h
  split at h
  · simp at h
  split at h
  · next rest hrest =>
    obtain rfl := Option.some.inj h
    exact ⟨rest, by rw [← hrest, hwhole]⟩
  · next rest hrest =>
    split at h
    · next after hafter =>
      obtain rfl := Option.some.inj h
      have hback := List.takeWhile_append_dropWhile (p := Char.isAlphanum) (l := rest)
      refine ⟨after, ?_⟩
      calc
        cs = cs.takeWhile Char.isAlphanum ++ '.' :: rest := by rw [← hrest, hwhole]
        _ = _ := by rw [List.append_assoc, List.cons_append, ← hafter, hback]
    · simp at h
  · simp at h

/-- Divides a text by its leftmost placeholders, after `passed` characters that belong to the last
one. -/
def piecesFrom : Nat → List Char → List Piece
  | _, [] => []
  | passed + 1, _ :: rest => piecesFrom passed rest
  | 0, c :: rest =>
      if c = '_' then
        match token? rest with
        | some token => .slot token :: piecesFrom (token.length + 1) rest
        | none => .plain c :: piecesFrom 0 rest
      else .plain c :: piecesFrom 0 rest

def pieces (cs : List Char) : List Piece := piecesFrom 0 cs

theorem piecesFrom_eq_drop (n : Nat) (cs : List Char) : piecesFrom n cs = pieces (cs.drop n) := by
  induction cs generalizing n with
  | nil => simp [piecesFrom, pieces]
  | cons c rest ih =>
    cases n with
    | zero => rfl
    | succ n => simpa [piecesFrom] using ih n

def Piece.isSlot : Piece → Bool
  | plain _ => false
  | slot _ => true

/-- The number of placeholders in a text. -/
def count (s : String) : Nat := ((pieces s.toList).filter Piece.isSlot).length

section Bytes

/-- The number of bytes of a text. -/
def byteLength : List Char → Nat
  | [] => 0
  | c :: cs => c.utf8Size + byteLength cs

/-- The characters of a text that begin before byte `n`. -/
def takeBytes : Nat → List Char → List Char
  | 0, _ => []
  | _, [] => []
  | n + 1, c :: cs => c :: takeBytes (n + 1 - c.utf8Size) cs

/-- The characters of a text that begin at byte `n` or later. -/
def dropBytes : Nat → List Char → List Char
  | 0, cs => cs
  | _, [] => []
  | n + 1, c :: cs => dropBytes (n + 1 - c.utf8Size) cs

/-- A text with `new` in the place of its bytes from `start` to `stop`. -/
def replaceBytes (cs : List Char) (start stop : Nat) (new : List Char) : List Char :=
  takeBytes start cs ++ (new ++ dropBytes stop cs)

@[simp]
theorem byteLength_nil : byteLength [] = 0 := rfl

@[simp]
theorem byteLength_cons (c : Char) (cs : List Char) :
    byteLength (c :: cs) = c.utf8Size + byteLength cs := rfl

@[simp]
theorem byteLength_append (front rest : List Char) :
    byteLength (front ++ rest) = byteLength front + byteLength rest := by
  induction front with
  | nil => simp
  | cons c front ih =>
    rw [List.cons_append, byteLength_cons, byteLength_cons, ih]
    omega

theorem takeBytes_append (front rest : List Char) :
    takeBytes (byteLength front) (front ++ rest) = front := by
  induction front with
  | nil => cases rest <;> rfl
  | cons c front ih =>
    obtain ⟨n, hn⟩ : ∃ n, c.utf8Size + byteLength front = n + 1 :=
      Nat.exists_eq_succ_of_ne_zero (by have := c.utf8Size_pos; omega)
    have hleft : n + 1 - c.utf8Size = byteLength front := by omega
    rw [byteLength_cons, List.cons_append, hn, takeBytes, hleft, ih]

theorem dropBytes_append (front rest : List Char) :
    dropBytes (byteLength front) (front ++ rest) = rest := by
  induction front with
  | nil => cases rest <;> rfl
  | cons c front ih =>
    obtain ⟨n, hn⟩ : ∃ n, c.utf8Size + byteLength front = n + 1 :=
      Nat.exists_eq_succ_of_ne_zero (by have := c.utf8Size_pos; omega)
    have hleft : n + 1 - c.utf8Size = byteLength front := by omega
    rw [byteLength_cons, List.cons_append, hn, dropBytes, hleft, ih]

theorem takeBytes_append_dropBytes (n : Nat) (cs : List Char) :
    takeBytes n cs ++ dropBytes n cs = cs := by
  induction cs generalizing n with
  | nil => cases n <;> rfl
  | cons c cs ih =>
    cases n with
    | zero => rfl
    | succ n => rw [takeBytes, dropBytes, List.cons_append, ih]

theorem replaceBytes_append (front old rest new : List Char) :
    replaceBytes (front ++ (old ++ rest)) (byteLength front) (byteLength front + byteLength old)
      new = front ++ (new ++ rest) := by
  have hrest : dropBytes (byteLength (front ++ old)) (front ++ (old ++ rest)) = rest := by
    rw [← List.append_assoc, dropBytes_append]
  rw [replaceBytes, takeBytes_append, ← byteLength_append, hrest]

end Bytes

/-- Where a placeholder begins, in bytes, and its token. -/
structure Place where
  start : Nat
  token : List Char
  deriving DecidableEq, Repr

def Place.placeholder (p : Place) : List Char := '_' :: p.token ++ ['_']

/-- The byte behind the placeholder. -/
def Place.stop (p : Place) : Nat := p.start + byteLength p.placeholder

/-- The first placeholder of a text that stands behind `passed` bytes. -/
def find? (passed : Nat) : List Char → Option Place
  | [] => none
  | c :: rest =>
      if c = '_' then
        match token? rest with
        | some token => some ⟨passed, token⟩
        | none => find? (passed + c.utf8Size) rest
      else find? (passed + c.utf8Size) rest

/-- The placeholder that is found is the first of the pieces, behind the bytes it is counted by. -/
theorem pieces_of_find? {passed : Nat} {cs : List Char} {p : Place}
    (h : find? passed cs = some p) :
    ∃ plain rest, cs = plain ++ (p.placeholder ++ rest) ∧ p.start = passed + byteLength plain ∧
      pieces cs = plain.map .plain ++ .slot p.token :: pieces rest := by
  induction cs generalizing passed with
  | nil => simp [find?] at h
  | cons c cs ih =>
    have hlater (h : find? (passed + c.utf8Size) cs = some p) (hplain : pieces (c :: cs) =
        .plain c :: pieces cs) : ∃ plain rest, c :: cs = plain ++ (p.placeholder ++ rest) ∧
        p.start = passed + byteLength plain ∧
        pieces (c :: cs) = plain.map .plain ++ .slot p.token :: pieces rest := by
      obtain ⟨plain, rest, hcs, hstart, hpieces⟩ := ih h
      refine ⟨c :: plain, rest, by simp [hcs], ?_, by simp [hplain, hpieces]⟩
      rw [hstart, byteLength_cons, Nat.add_assoc]
    simp only [find?] at h
    split at h
    next hmark =>
      split at h
      next token htoken =>
        obtain rfl := Option.some.inj h
        obtain ⟨rest, hrest⟩ := eq_append_of_token? htoken
        have hpieces : piecesFrom (token.length + 1) cs = pieces rest := by
          rw [piecesFrom_eq_drop, hrest]
          simp
        refine ⟨[], rest, by simp [Place.placeholder, hmark, hrest], rfl, ?_⟩
        simp [pieces, piecesFrom, hmark, htoken, hpieces]
      next hnone => exact hlater h (by simp [pieces, piecesFrom, hmark, hnone])
    next hmark => exact hlater h (by simp [pieces, piecesFrom, hmark])

/-- Where none is found, the text is plain. -/
theorem pieces_of_find?_none {passed : Nat} {cs : List Char} (h : find? passed cs = none) :
    pieces cs = cs.map .plain := by
  induction cs generalizing passed with
  | nil => rfl
  | cons c cs ih =>
    simp only [find?] at h
    split at h
    next hmark =>
      split at h
      · simp at h
      next hnone => simpa [pieces, piecesFrom, hmark, hnone] using ih h
    next hmark => simpa [pieces, piecesFrom, hmark] using ih h

/-- A placeholder that got no word. It is `empty` when its word list is there and has no words. -/
structure Miss where
  placeholder : String
  empty : Bool
  deriving DecidableEq, Repr

structure Substitution where
  text : String
  misses : List Miss
  passes : Nat
  deriving DecidableEq, Repr

/-- Stands where no word could be drawn. -/
def fallback : String := "SOMETHING"

/-- The words a token stands for: a field of an active member if it has a period, else an entry of
the word catalog. -/
def wordsFor (words : Catalog) (store : Store) (token : List Char) : Option (List String) :=
  let name := Text.lower (String.ofList token)
  if '.' ∈ token then (store.lookup name .group).bind View.list? else words.get? name

/-- A sentence on its way: the text so far, the byte from which the search goes on, and what was
noted. The byte is the first of a character, or the end. -/
structure Draft where
  text : List Char
  cursor : Nat
  misses : List Miss
  passes : Nat
  cursor_valid : byteLength (takeBytes cursor text) = cursor

namespace Draft

def start (sentence : List Char) : Draft where
  text := sentence
  cursor := 0
  misses := []
  passes := 0
  cursor_valid := by cases sentence <;> rfl

/-- The text that has been searched. -/
def front (d : Draft) : List Char := takeBytes d.cursor d.text

/-- The text that is to be searched. -/
def rest (d : Draft) : List Char := dropBytes d.cursor d.text

/-- The first placeholder that begins at the cursor or behind it. -/
def find? (d : Draft) : Option Place := Placeholder.find? d.cursor d.rest

theorem front_append_rest (d : Draft) : d.front ++ d.rest = d.text :=
  takeBytes_append_dropBytes d.cursor d.text

@[simp]
theorem front_start (sentence : List Char) : (start sentence).front = [] := by
  cases sentence <;> rfl

@[simp]
theorem rest_start (sentence : List Char) : (start sentence).rest = sentence := by
  cases sentence <;> rfl

@[simp]
theorem misses_start (sentence : List Char) : (start sentence).misses = [] := rfl

@[simp]
theorem passes_start (sentence : List Char) : (start sentence).passes = 0 := rfl

variable {d : Draft} {p : Place}

/-- What is put in the place of a placeholder stands behind the text that has been searched and the
plain text up to the placeholder. -/
theorem replaced (h : d.find? = some p) (new : List Char) :
    ∃ plain rest, d.rest = plain ++ (p.placeholder ++ rest) ∧
      pieces d.rest = plain.map .plain ++ .slot p.token :: pieces rest ∧
      replaceBytes d.text p.start p.stop new = d.front ++ plain ++ new ++ rest ∧
      p.start + byteLength new = byteLength (d.front ++ plain ++ new) := by
  obtain ⟨plain, rest, hrest, hstart, hpieces⟩ := pieces_of_find? h
  have hfront : byteLength (d.front ++ plain) = p.start := by
    rw [byteLength_append, hstart]
    exact congrArg (· + byteLength plain) d.cursor_valid
  refine ⟨plain, rest, hrest, hpieces, ?_, by rw [byteLength_append, hfront]⟩
  calc
    replaceBytes d.text p.start p.stop new
      = replaceBytes (d.front ++ plain ++ (p.placeholder ++ rest)) (byteLength (d.front ++ plain))
          (byteLength (d.front ++ plain) + byteLength p.placeholder) new := by
        rw [hfront, Place.stop, ← front_append_rest, hrest, List.append_assoc]
    _ = d.front ++ plain ++ new ++ rest := by rw [replaceBytes_append]; simp

/-- Replaces a placeholder that was found, notes a miss if there is no word, and moves the cursor
behind the replacement. -/
def pass (d : Draft) (p : Place) (h : d.find? = some p) (word : Option String) (listed : Bool) :
    Draft where
  text := replaceBytes d.text p.start p.stop (word.getD fallback).toList
  cursor := p.start + byteLength (word.getD fallback).toList
  misses := match word with
    | some _ => d.misses
    | none => d.misses ++ [⟨String.ofList p.placeholder, listed⟩]
  passes := d.passes + 1
  cursor_valid := by
    obtain ⟨plain, rest, -, -, htext, hcursor⟩ := replaced h (word.getD fallback).toList
    rw [htext, hcursor, takeBytes_append]

/-- A pass goes behind the first placeholder of the text that is to be searched, and leaves what
stands there. -/
theorem front_rest_pass (h : d.find? = some p) (word : Option String) (listed : Bool) :
    ∃ plain rest, d.rest = plain ++ (p.placeholder ++ rest) ∧
      pieces d.rest = plain.map .plain ++ .slot p.token :: pieces rest ∧
      (d.pass p h word listed).front = d.front ++ plain ++ (word.getD fallback).toList ∧
      (d.pass p h word listed).rest = rest := by
  obtain ⟨plain, rest, hrest, hpieces, htext, hcursor⟩ :=
    replaced h (word.getD fallback).toList
  refine ⟨plain, rest, hrest, hpieces, ?_, ?_⟩
  · simp only [front, pass, htext, hcursor, takeBytes_append]
  · simp only [Draft.rest, pass, htext, hcursor, dropBytes_append]

theorem length_rest_pass (h : d.find? = some p) (word : Option String) (listed : Bool) :
    (d.pass p h word listed).rest.length < d.rest.length := by
  obtain ⟨plain, rest, hrest, -, -, hpass⟩ := front_rest_pass h word listed
  simp [hpass, hrest, Place.placeholder]
  omega

end Draft

/-- Replaces one placeholder after the other by a drawn word, until there is none from the cursor
on. -/
def fill (words : Catalog) (store : Store) (d : Draft) (c : Chance) : Draft × Chance :=
  match h : d.find? with
  | none => (d, c)
  | some p =>
      let source := wordsFor words store p.token
      let (word, c) := c.choose (source.getD [])
      fill words store (d.pass p h word source.isSome) c
termination_by d.rest.length
decreasing_by exact Draft.length_rest_pass h _ _

/-- Replaces every placeholder of a sentence by a drawn word. -/
def substitute (sentence : String) (words : Catalog) (store : Store) (c : Chance) :
    Substitution × Chance :=
  let (d, c) := fill words store (.start sentence.toList) c
  (⟨String.ofList d.text, d.misses, d.passes⟩, c)

end ProseScript.Placeholder
