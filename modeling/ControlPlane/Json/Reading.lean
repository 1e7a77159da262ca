import ControlPlane.Json.Quoted

/-!
# Reading a JSON text

A text is read once, from left to right, into a `Reading`: what was seen, with the faults in the places where they were met.
What a fault means is decided later, by the one who looks: a part that nobody looks at may hold texts, numbers and depths
that a part that is looked at may not. Looking at a reading from left to right meets its first fault first.

`Reading.ofOctets` reads the whole text; `Reading.skipFault?` is the first fault of a part that nobody looks at.
-/

namespace ControlPlane.Json

mutual

/-- What was seen of a value. -/
inductive Reading where
  | null
  | bool (b : Bool)
  /-- A numeral, unless its number is too great. -/
  | number (n : Except Mark Number)
  /-- A text, unless its escapes or octets stand for no characters. -/
  | quoted (s : Except Mark String)
  /-- A list, with the number of octets from its bracket on. -/
  | list (size : Nat) (items : Items)
  /-- An object, with the number of octets from its brace on. -/
  | object (size : Nat) (members : Members)
  /-- No value begins here. -/
  | missing (m : Mark)
  /-- A word, a numeral or a text that begins with an octet and comes to no end: the fault for one who looks, and for one who
  does not. -/
  | broken (first : UInt8) (looked skipped : Mark)

/-- What was seen of the items of a list. -/
inductive Items where
  | done
  | stopped (m : Mark)
  | cons (item : Reading) (rest : Items)

/-- What was seen of the members of an object. -/
inductive Members where
  | done
  | stopped (m : Mark)
  /-- No text stands where a name should. -/
  | nameless (m : Mark)
  | cons (name value : Reading) (rest : Members)

end

/-- Something read from the start of a text, and what follows it, which is shorter than a bound. Nothing follows where
reading had to stop. -/
structure Read (α : Type) (bound : Nat) where
  value : α
  rest : Option Octets
  shorter : ∀ r, rest = some r → r.length < bound

namespace Read

variable {α β : Type} {m n : Nat}

/-- Reading stops. -/
def stop (a : α) : Read α n := ⟨a, none, nofun⟩

/-- Reading goes on behind what was read. -/
def go (a : α) (rest : Octets) (h : rest.length < n) : Read α n := ⟨a, some rest, by simpa using h⟩

/-- The same reading seen from further left. -/
def widen (r : Read α m) (h : m ≤ n) : Read α n := ⟨r.value, r.rest, fun t ht => Nat.lt_of_lt_of_le (r.shorter t ht) h⟩

/-- The same reading of something else. -/
def map (f : α → β) (r : Read α n) : Read β n := ⟨f r.value, r.rest, r.shorter⟩

end Read

/-- Whether an octet is a blank between tokens. -/
def isBlank (b : UInt8) : Bool := b == 0x20 || b == 0x0a || b == 0x09 || b == 0x0d

/-- The text behind the blanks at its start. -/
def skipBlanks (s : Octets) : Octets := s.dropWhile isBlank

theorem length_skipBlanks_le (s : Octets) : (skipBlanks s).length ≤ s.length :=
  (List.dropWhile_sublist isBlank).length_le

/-- A fault at the next octet, which stays unread. -/
def atNext (kind : FaultKind) (s : Octets) : Mark := ⟨kind, s.length - 1⟩

/-- The text behind the other letters of a word, or the fault at the first that differs. -/
def expectWord : List Char → Octets → Except Mark Octets
  | [], s => .ok s
  | _ :: _, [] => .error ⟨.endInValue, 0⟩
  | c :: cs, b :: rest => if b = octet c then expectWord cs rest else .error ⟨.expectedWord, rest.length⟩

theorem length_of_expectWord {cs : List Char} {s rest : Octets} (h : expectWord cs s = .ok rest) :
    rest.length ≤ s.length := by
  fun_induction expectWord cs s with
  | case1 => cases h; exact Nat.le_refl _
  | case2 => cases h
  | case3 _ _ _ ih => exact Nat.le_succ_of_le (ih h)
  | case4 => cases h

/-- Reads the rest of a word behind its first letter. -/
def readWord (first : UInt8) (letters : List Char) (seen : Reading) (s : Octets) {bound : Nat} (h : s.length < bound) :
    Read Reading bound :=
  match hw : expectWord letters s with
  | .ok rest => .go seen rest (Nat.lt_of_le_of_lt (length_of_expectWord hw) h)
  | .error m => .stop (.broken first m m)

/-! ## Numerals -/

/-- Digits at the start of a text, and what follows them. -/
def splitDigits (s : Octets) : List Nat × Octets := (digits s, afterDigits s)

/-- The parts of a numeral, with the fault for one who looks and for one who does not where it has no end. -/
abbrev NumeralRead := Except (Mark × Mark) (Numeral × Octets)

/-- A fault in a numeral that comes from the end of the text for one who looks. -/
def numeralEnd : Mark × Mark := (⟨.endInValue, 0⟩, ⟨.invalidNumber, 0⟩)

/-- Reads the exponent of a numeral, behind its letter. -/
def readExponent (n : Numeral) (s : Octets) : NumeralRead :=
  let (below, s) := match s with
    | [] => (false, [])
    | b :: rest => if b = octet '+' then (false, rest) else if b = octet '-' then (true, rest) else (false, b :: rest)
  match s with
  | [] => .error numeralEnd
  | b :: rest =>
    if (digit? b).isSome then .ok ({ n with exponent := some (below, digits (b :: rest)) }, afterDigits (b :: rest))
    else .error (⟨.invalidNumber, rest.length⟩, ⟨.invalidNumber, rest.length⟩)

/-- Reads the exponent of a numeral, if there is one. -/
def readExponent? (n : Numeral) (s : Octets) : NumeralRead :=
  match s with
  | [] => .ok (n, [])
  | b :: rest => if b = octet 'e' ∨ b = octet 'E' then readExponent n rest else .ok (n, b :: rest)

/-- Reads the fraction and the exponent of a numeral, if there are any. -/
def readFraction? (n : Numeral) (s : Octets) : NumeralRead :=
  match s with
  | [] => .ok (n, [])
  | b :: rest =>
    if b = octet '.' then
      match digits rest with
      | [] =>
        match rest with
        | [] => .error numeralEnd
        | _ :: _ => .error (atNext .invalidNumber rest, atNext .invalidNumber rest)
      | ds => readExponent? { n with fraction := ds } (afterDigits rest)
    else readExponent? n (b :: rest)

/-- Reads a numeral behind its sign. The digit 0 begins no longer whole part. -/
def readNumeral (negative : Bool) (s : Octets) : NumeralRead :=
  match s with
  | [] => .error numeralEnd
  | b :: rest =>
    if b = octet '0' then
      match rest with
      | [] => .ok (⟨negative, [0], [], none⟩, [])
      | d :: _ =>
        if (digit? d).isSome then .error (atNext .invalidNumber rest, atNext .invalidNumber rest)
        else readFraction? ⟨negative, [0], [], none⟩ rest
    else if (digit? b).isSome then
      readFraction? ⟨negative, digits (b :: rest), [], none⟩ (afterDigits (b :: rest))
    else .error (⟨.invalidNumber, rest.length⟩, ⟨.invalidNumber, rest.length⟩)

theorem length_of_readExponent {n k : Numeral} {s rest : Octets} (h : readExponent n s = .ok (k, rest)) :
    rest.length ≤ s.length := by
  have aux : ∀ (below : Bool) (t : Octets), t.length ≤ s.length →
      (match t with
        | [] => (.error numeralEnd : NumeralRead)
        | b :: r =>
          if (digit? b).isSome then .ok ({ n with exponent := some (below, digits (b :: r)) }, afterDigits (b :: r))
          else .error (⟨.invalidNumber, r.length⟩, ⟨.invalidNumber, r.length⟩)) = .ok (k, rest) →
      rest.length ≤ s.length := by
    intro below t ht h
    cases t with
    | nil => cases h
    | cons b r =>
      simp only at h
      split at h
      · cases h; exact Nat.le_trans (length_afterDigits_le _) ht
      · cases h
  unfold readExponent at h
  cases s with
  | nil => exact aux false [] (Nat.le_refl _) h
  | cons b r =>
    simp only at h
    by_cases hp : b = octet '+'
    · rw [if_pos hp] at h; exact aux false r (by simp) h
    · rw [if_neg hp] at h
      by_cases hm : b = octet '-'
      · rw [if_pos hm] at h; exact aux true r (by simp) h
      · rw [if_neg hm] at h; exact aux false (b :: r) (Nat.le_refl _) h

theorem length_of_readExponent? {n k : Numeral} {s rest : Octets} (h : readExponent? n s = .ok (k, rest)) :
    rest.length ≤ s.length := by
  unfold readExponent? at h
  split at h
  · cases h; exact Nat.le_refl _
  · split at h
    · exact Nat.le_succ_of_le (length_of_readExponent h)
    · cases h; exact Nat.le_refl _

theorem length_of_readFraction? {n k : Numeral} {s rest : Octets} (h : readFraction? n s = .ok (k, rest)) :
    rest.length ≤ s.length := by
  unfold readFraction? at h
  split at h
  · cases h; exact Nat.le_refl _
  · split at h
    · split at h
      · split at h <;> cases h
      · exact Nat.le_succ_of_le (Nat.le_trans (length_of_readExponent? h) (length_afterDigits_le _))
    · exact length_of_readExponent? h

theorem length_afterDigits_lt {b : UInt8} {s : Octets} (h : (digit? b).isSome) :
    (afterDigits (b :: s)).length < (b :: s).length := by
  simp only [afterDigits, h, if_true, List.length_cons]
  exact Nat.lt_succ_of_le (length_afterDigits_le s)

/-- What follows a numeral is shorter than the text before it. -/
theorem length_of_readNumeral {negative : Bool} {n : Numeral} {s rest : Octets}
    (h : readNumeral negative s = .ok (n, rest)) : rest.length < s.length := by
  unfold readNumeral at h
  split at h
  · cases h
  · split at h
    · split at h
      · cases h; simp
      · split at h
        · cases h
        · exact Nat.lt_succ_of_le (length_of_readFraction? h)
    · split at h
      · next hd => exact Nat.lt_of_le_of_lt (length_of_readFraction? h) (length_afterDigits_lt hd)
      · cases h

/-- Reads a number behind its sign. The first octet is that of the sign or of a digit. -/
def readNumber (first : UInt8) (negative : Bool) (s : Octets) : Read Reading s.length :=
  match h : readNumeral negative s with
  | .error (looked, skipped) => .stop (.broken first looked skipped)
  | .ok (n, rest) =>
    let number := match n.value with
      | .ok value => .ok value
      | .error unread => .error ⟨.numberOutOfRange, rest.length + unread⟩
    .go (.number number) rest (length_of_readNumeral h)

/-- Reads a text behind its opening quote. -/
def readQuoted (s : Octets) : Read Reading s.length :=
  match h : skipText s with
  | .ok rest => .go (.quoted (readText s)) rest (length_of_skipText h)
  | .error m =>
    .stop <| match readText s with
      | .error looked => .broken (octet '"') looked m
      | .ok _ => .broken (octet '"') m m

/-! ## Values

Reading a value, an item or a member of what is left nests deeper without using up octets at most twice in a row. -/

theorem nested_lt {a b i j : Nat} (h : a ≤ b) (hij : i < j) : Prod.Lex (· < ·) (· < ·) (a, i) (b, j) := by
  rcases Nat.lt_or_eq_of_le h with hlt | heq
  · exact .left _ _ hlt
  · subst heq; exact .right _ hij

mutual

/-- Reads a value. -/
def readValue (s : Octets) : Read Reading s.length :=
  match h : skipBlanks s with
  | [] => .stop (.missing ⟨.endInValue, 0⟩)
  | b :: t =>
    have ht : t.length < s.length := by
      have := length_skipBlanks_le s
      rw [h] at this
      exact this
    if b = octet 'n' then readWord b ['u', 'l', 'l'] .null t ht
    else if b = octet 't' then readWord b ['r', 'u', 'e'] (.bool true) t ht
    else if b = octet 'f' then readWord b ['a', 'l', 's', 'e'] (.bool false) t ht
    else if b = octet '"' then (readQuoted t).widen (Nat.le_of_lt ht)
    else if b = octet '-' then (readNumber b true t).widen (Nat.le_of_lt ht)
    else if (digit? b).isSome then (readNumber b false (b :: t)).widen ht
    else if b = octet '[' then ((readItems true t).map (.list (t.length + 1))).widen (Nat.le_of_lt ht)
    else if b = octet '\x7b' then ((readMembers true t).map (.object (t.length + 1))).widen (Nat.le_of_lt ht)
    else .stop (.missing (atNext .expectedValue (b :: t)))
termination_by (s.length, 0)

/-- Reads the items of a list up to its bracket: at the first item, or behind an item. -/
def readItems (first : Bool) (s : Octets) : Read Items s.length :=
  match h : skipBlanks s with
  | [] => .stop (.stopped ⟨.endInList, 0⟩)
  | b :: t =>
    have ht : t.length < s.length := by
      have := length_skipBlanks_le s
      rw [h] at this
      exact this
    if b = octet ']' then .go .done t ht
    else if first then readItem (b :: t) ht
    else if b = octet ',' then
      match h' : skipBlanks t with
      | [] => .stop (.cons (.missing ⟨.endInValue, 0⟩) .done)
      | c :: u =>
        have hu : (c :: u).length ≤ s.length := by
          have := length_skipBlanks_le t
          rw [h'] at this
          omega
        if c = octet ']' then .stop (.stopped (atNext .trailingComma (c :: u))) else readItem (c :: u) hu
    else .stop (.stopped (atNext .expectedListCommaOrEnd (b :: t)))
termination_by (s.length, 2)
decreasing_by
  · exact nested_lt ht (by decide)
  · exact nested_lt hu (by decide)

/-- Reads an item and those behind it. -/
def readItem {bound : Nat} (s : Octets) (hs : s.length ≤ bound) : Read Items bound :=
  let item := readValue s
  match hr : item.rest with
  | none => .stop (.cons item.value .done)
  | some rest =>
    have : rest.length < s.length := item.shorter rest hr
    ((readItems false rest).map (.cons item.value)).widen (by omega)
termination_by (s.length, 1)

/-- Reads the members of an object up to its brace: at the first member, or behind a member. -/
def readMembers (first : Bool) (s : Octets) : Read Members s.length :=
  match h : skipBlanks s with
  | [] => .stop (if first then .nameless ⟨.endInObject, 0⟩ else .stopped ⟨.endInObject, 0⟩)
  | b :: t =>
    have ht : t.length < s.length := by
      have := length_skipBlanks_le s
      rw [h] at this
      exact this
    if b = octet '\x7d' then .go .done t ht
    else if first then
      if b = octet '"' then readMember t (Nat.le_of_lt ht)
      else .stop (.nameless (atNext .keyMustBeText (b :: t)))
    else if b = octet ',' then
      match h' : skipBlanks t with
      | [] => .stop (.nameless ⟨.endInValue, 0⟩)
      | c :: u =>
        have hu : (c :: u).length ≤ t.length := by
          have := length_skipBlanks_le t
          rwa [h'] at this
        if c = octet '"' then readMember u (by simp at hu; omega)
        else if c = octet '\x7d' then .stop (.nameless (atNext .trailingComma (c :: u)))
        else .stop (.nameless (atNext .keyMustBeText (c :: u)))
    else .stop (.stopped (atNext .expectedObjectCommaOrEnd (b :: t)))
termination_by (s.length, 2)
decreasing_by
  · exact nested_lt (Nat.le_of_lt ht) (by decide)
  · exact nested_lt (Nat.le_of_lt (Nat.lt_trans hu ht)) (by decide)

/-- Reads a member behind the quote of its name, and those behind it. -/
def readMember {bound : Nat} (s : Octets) (hs : s.length ≤ bound) : Read Members bound :=
  let name := readQuoted s
  match hn : name.rest with
  | none => .stop (.cons name.value (.missing ⟨.endInText, 0⟩) .done)
  | some afterName =>
    have hlt : afterName.length < s.length := name.shorter afterName hn
    match hc : skipBlanks afterName with
    | [] => .stop (.cons name.value (.missing ⟨.endInObject, 0⟩) .done)
    | b :: t =>
      have ht : t.length < s.length := by
        have := length_skipBlanks_le afterName
        rw [hc] at this
        exact Nat.lt_trans this hlt
      if b = octet ':' then
        let value := readValue t
        match hr : value.rest with
        | none => .stop (.cons name.value value.value .done)
        | some rest =>
          have : rest.length < t.length := value.shorter rest hr
          ((readMembers false rest).map (.cons name.value value.value)).widen (by omega)
      else .stop (.cons name.value (.missing (atNext .expectedColon (b :: t))) .done)
termination_by (s.length, 1)

end

/-- Reads a text that holds one value. -/
def Reading.ofOctets (s : Octets) : Reading × Option Octets := ((readValue s).value, (readValue s).rest)

/-! ## Parts that nobody looks at -/

mutual

/-- The first fault of a value that nobody looks at. -/
def Reading.skipFault? : Reading → Option Mark
  | .null | .bool _ | .number _ | .quoted _ => none
  | .list _ items => items.skipFault?
  | .object _ members => members.skipFault?
  | .missing skipped | .broken _ _ skipped => some skipped

/-- The first fault of items that nobody looks at. -/
def Items.skipFault? : Items → Option Mark
  | .done => none
  | .stopped m => some m
  | .cons item rest => item.skipFault? <|> rest.skipFault?

/-- The first fault of members that nobody looks at. -/
def Members.skipFault? : Members → Option Mark
  | .done => none
  | .stopped m | .nameless m => some m
  | .cons name value rest => name.skipFault? <|> value.skipFault? <|> rest.skipFault?

end

/-! ## Places -/

/-- The line and the column of the place that lies so many octets before the end of a text. -/
def place (s : Octets) (left : Nat) : Nat × Nat :=
  let before := s.take (s.length - left)
  (1 + before.count 0x0a, (before.reverse.takeWhile (· != 0x0a)).length)

/-- A fault with its place in the text. -/
def Mark.toFault (m : Mark) (s : Octets) : Fault := ⟨m.kind, (place s m.left).1, (place s m.left).2⟩

end ControlPlane.Json
