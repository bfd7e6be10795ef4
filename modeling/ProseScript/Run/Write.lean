import ProseScript.Placeholder
import ProseScript.Run.Outcome
import ProseScript.Run.State
import ProseScript.Sampling

/-!
`WRITE sentences words [amount] [RANDOM|ORDER]`: sentences are taken in order or at random, filled
and formatted, until the amount is reached.
-/

namespace ProseScript.Run

/-- Where sentences are taken from. An entry of a catalog holds alternatives. -/
inductive SentenceSource where
  | list (items : List String)
  | catalog (entries : Catalog)
  deriving Repr

namespace SentenceSource

def size : SentenceSource → Nat
  | list items => items.length
  | catalog entries => entries.size

/-- The alternatives at a place, which wraps around. -/
def options (index : Nat) : SentenceSource → List String
  | list items => items[index % items.length]?.toList
  | catalog entries => ((entries.entries[index % entries.size]?).map Prod.snd).getD []

/-- A sentence of a place. Only alternatives of a catalog are drawn. -/
def pick (index : Nat) (c : Chance) : SentenceSource → Option String × Chance
  | list items => (items[index % items.length]?, c)
  | catalog entries => c.choose ((catalog entries).options index)

end SentenceSource

/-- What a `WRITE` line asks for. -/
structure WritePlan where
  sentences : SentenceSource
  words : Catalog
  wordsName : String
  amount : Nat
  counting : Counting
  ordered : Bool
  deriving Repr

/-- The word catalog of a `WRITE` line. -/
def writeWords (l : Line) (s : State) (name : String) : Except Fault Catalog :=
  match s.lookup name with
  | none => .error (.unknownVariable l name)
  | some v =>
      if v.isEmpty then
        .error (((Fault.on l .emptySource "the specified word variable is empty").expecting
          "a non-empty word variable").given name)
      else match v with
        | .catalog entries => .ok entries
        | v => .error (.typeMismatch l name "a variable of type catalog" v.kind.name)

/-- The sentence source of a `WRITE` line. A list of one empty sentence counts as empty. -/
def writeSentences (l : Line) (s : State) (name : String) : Except Fault SentenceSource :=
  match s.lookup name with
  | none => .error (.unknownVariable l name)
  | some v =>
      if v.isEmpty || v.list? == some [""] then
        .error (((Fault.on l .emptySource "the specified sentence variable is empty").expecting
          "a valid and non-empty sentence variable name").given name)
      else match v with
        | .list items => .ok (.list items)
        | .catalog entries => .ok (.catalog entries)
        | v => .error (.typeMismatch l name "a variable of type list or catalog" v.kind.name)

/-- The amount of a `WRITE` line: one sentence unless given. -/
def writeAmount (l : Line) (c : Chance) : Option String → Except Fault (Nat × Counting × Chance)
  | none => .ok (1, .cycles, c)
  | some text =>
      match Amount.ofText? text with
      | some amount =>
          let (n, c) := amount.resolve c
          .ok (n, amount.counting, c)
      | none =>
          .error ((Fault.malformed l
            "a number or numerical range, or an amount of words or numerical range of words").given
            text)

/-- The order of a `WRITE` line: random unless given. -/
def writeOrder (l : Line) : Option String → Except Fault Bool
  | none => .ok false
  | some text =>
      let order := Text.lower text
      if order == "order" then .ok true
      else if order == "random" then .ok false
      else .error ((Fault.malformed l "RANDOM or ORDER").given order)

/-- Checks the parameters of a `WRITE` line from the words to the order. -/
def writePlan (l : Line) (s : State) : Except Fault (WritePlan × Chance) :=
  match l.paramWords with
  | sentencesWord :: wordsWord :: options =>
      if 2 < options.length then
        .error (.parameterCount l "2 - 4 parameters" (options.length + 2))
      else do
        let wordsName := Text.lower wordsWord
        let words ← writeWords l s wordsName
        let sentences ← writeSentences l s (Text.lower sentencesWord)
        let (amount, counting, chance) ← writeAmount l s.chance options[0]?
        let ordered ← writeOrder l options[1]?
        return (⟨sentences, words, wordsName, amount, counting, ordered⟩, chance)
  | params => .error (.parameterCount l "2 - 4 parameters" params.length)

/-- The warning about a placeholder that got no word. -/
def missWarning (l : Line) (wordsName : String) (m : Placeholder.Miss) : Warning :=
  let start := "unable to complete word substitution for " ++ m.placeholder
  (Warning.severe <|
    if m.empty then start ++ ": the word set is empty or not a list"
    else start ++ ": no such word set in " ++ wordsName).on l

/-- Writes the sentence at a place and moves on to the next place. -/
def writeOne (l : Line) (p : WritePlan) : Nat × State → Outcome (Nat × State)
  | (index, s) =>
      match p.sentences.pick index s.chance with
      | (none, _) =>
          .failed (.parameterValue l "a sentence catalog without empty entries" "an empty value")
            s.shown
      | (some sentence, chance) =>
          let (filled, chance) := Placeholder.substitute sentence p.words s.store chance
          let s := s.warnAll (filled.misses.map (missWarning l p.wordsName))
          let s := s.pushSentence (s.format.apply filled.text)
          let (index, chance) := Sampling.nextIndex index p.sentences.size p.ordered chance
          .finished (index, { s with chance })

/-- The place to begin at. -/
def startIndex (p : WritePlan) (c : Chance) : Nat × Chance :=
  if p.ordered then (0, c) else c.uniform .long 0 (p.sentences.size - 1)

/-- Runs a `WRITE` line, with at most `limit` sentences when words are counted. -/
def write (limit : Nat) (l : Line) (s : State) : Outcome State :=
  match writePlan l s with
  | .error f => .failed f s.shown
  | .ok (p, chance) =>
      match p.counting.span? s.wordCount p.amount with
      | none => .crashed .overflow s.shown
      | some (start, stop) =>
          let (index, chance) := startIndex p chance
          (Outcome.repeated p.counting (fun x => x.2.wordCount) limit (writeOne l p) start stop
            (index, { s with chance })).bind fun x => .finished x.2

end ProseScript.Run
