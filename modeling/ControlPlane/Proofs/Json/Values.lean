import ControlPlane.Proofs.Json.Tokens

/-!
# Values come back from a JSON text

A value that was written without blanks is read again, where each of its numbers is a whole one of 64 bits
(`Reading.ofOctets_compact`). What is read then shows the value: `Reading.Shows`. It differs from the value only by the numbers
of octets that lists and objects take.
-/

namespace ControlPlane.Json

/-! ## What a reading shows -/

mutual

/-- Whether a reading shows a value. -/
inductive Reading.Shows : Reading → Json → Prop
  | null : Reading.Shows .null .null
  | bool (b : Bool) : Reading.Shows (.bool b) (.bool b)
  | number (n : Number) : Reading.Shows (.number (.ok n)) (.number n)
  | text (s : String) : Reading.Shows (.quoted (.ok s)) (.text s)
  | list {size : Nat} {items : Items} {vs : List Json} : items.Show vs → Reading.Shows (.list size items) (.array vs)
  | object {size : Nat} {members : Members} {ms : List (String × Json)} :
      members.Show ms → Reading.Shows (.object size members) (.object ms)

/-- Whether items show values. -/
inductive Items.Show : Items → List Json → Prop
  | done : Items.Show .done []
  | cons {r : Reading} {v : Json} {items : Items} {vs : List Json} :
      r.Shows v → items.Show vs → Items.Show (.cons r items) (v :: vs)

/-- Whether members show names and values. -/
inductive Members.Show : Members → List (String × Json) → Prop
  | done : Members.Show .done []
  | cons {r : Reading} {name : String} {v : Json} {members : Members} {ms : List (String × Json)} :
      r.Shows v → members.Show ms → Members.Show (.cons (.quoted (.ok name)) r members) ((name, v) :: ms)

end

mutual

/-- Whether every number in a value is a whole one of 64 bits. -/
def IsExact : Json → Prop
  | .null | .bool _ | .text _ => True
  | .number (.integer n) => Numeral.IsExact n
  | .number (.double _) => False
  | .array vs => AreExact vs
  | .object ms => HaveExact ms

/-- Whether every number in values is. -/
def AreExact : List Json → Prop
  | [] => True
  | v :: vs => v.IsExact ∧ AreExact vs

/-- Whether every number in members is. -/
def HaveExact : List (String × Json) → Prop
  | [] => True
  | (_, v) :: ms => v.IsExact ∧ HaveExact ms

end

/-! ## Reading, token by token -/

/-- No blank stands before a token. -/
theorem skipBlanks_cons {b : UInt8} (h : isBlank b = false) (t : Octets) : skipBlanks (b :: t) = b :: t := by
  rw [skipBlanks, List.dropWhile_cons, h, if_neg (by decide)]

/-- What is seen of a word does not depend on the bound. -/
theorem seen_readWord (first : UInt8) (letters : List Char) (r : Reading) (s : Octets) {bound : Nat} (h : s.length < bound) :
    (readWord first letters r s h).seen =
      match expectWord letters s with
      | .ok rest => (r, some rest)
      | .error m => (.broken first m m, none) := by
  unfold readWord
  split
  · next heq => simp only [Read.seen_go, heq]
  · next heq => simp only [Read.seen_stop, heq]

/-- The first octet tells what a value is. -/
theorem seen_readValue {s : Octets} {b : UInt8} {t : Octets} (h : skipBlanks s = b :: t) :
    (readValue s).seen =
      if b = octet 'n' then (readWord b ['u', 'l', 'l'] .null t (Nat.lt_succ_self t.length)).seen
      else if b = octet 't' then (readWord b ['r', 'u', 'e'] (.bool true) t (Nat.lt_succ_self t.length)).seen
      else if b = octet 'f' then (readWord b ['a', 'l', 's', 'e'] (.bool false) t (Nat.lt_succ_self t.length)).seen
      else if b = octet '"' then (readQuoted t).seen
      else if b = octet '-' then (readNumber b true t).seen
      else if (digit? b).isSome then (readNumber b false (b :: t)).seen
      else if b = octet '[' then ((readItems true t).map (.list (t.length + 1))).seen
      else if b = octet '\x7b' then ((readMembers true t).map (.object (t.length + 1))).seen
      else (.missing (atNext .expectedValue (b :: t)), none) := by
  rw [readValue]
  split
  · next h' => rw [h] at h'; cases h'
  · next b' t' h' =>
    rw [h] at h'
    cases h'
    simp only [apply_ite Read.seen, seen_readWord, Read.seen_widen, Read.seen_stop]

/-- A quote begins a text. -/
theorem seen_readValue_quote {s t : Octets} (h : skipBlanks s = octet '"' :: t) :
    (readValue s).seen = (readQuoted t).seen := by
  rw [seen_readValue h, if_neg (by decide), if_neg (by decide), if_neg (by decide), if_pos rfl]

/-- A bracket begins a list. -/
theorem seen_readValue_bracket {s t : Octets} (h : skipBlanks s = octet '[' :: t) :
    (readValue s).seen = (.list (t.length + 1) (readItems true t).seen.1, (readItems true t).seen.2) := by
  rw [seen_readValue h, if_neg (by decide), if_neg (by decide), if_neg (by decide), if_neg (by decide), if_neg (by decide),
    if_neg (by decide), if_pos rfl, Read.seen_map]

/-- A brace begins an object. -/
theorem seen_readValue_brace {s t : Octets} (h : skipBlanks s = octet '\x7b' :: t) :
    (readValue s).seen = (.object (t.length + 1) (readMembers true t).seen.1, (readMembers true t).seen.2) := by
  rw [seen_readValue h, if_neg (by decide), if_neg (by decide), if_neg (by decide), if_neg (by decide), if_neg (by decide),
    if_neg (by decide), if_neg (by decide), if_pos rfl, Read.seen_map]

/-- A sign begins a number. -/
theorem seen_readValue_sign {s t : Octets} (h : skipBlanks s = octet '-' :: t) :
    (readValue s).seen = (readNumber (octet '-') true t).seen := by
  rw [seen_readValue h, if_neg (by decide), if_neg (by decide), if_neg (by decide), if_neg (by decide), if_pos rfl]

/-- A digit is no mark of any other value. -/
theorem marks_of_digit {b : UInt8} (h : (digit? b).isSome = true) :
    isBlank b = false ∧ b ≠ octet ']' ∧ b ≠ octet 'n' ∧ b ≠ octet 't' ∧ b ≠ octet 'f' ∧ b ≠ octet '"' ∧ b ≠ octet '-' := by
  have hb : 0x30 ≤ b.toNat ∧ b.toNat ≤ 0x39 := by
    by_cases hc : (0x30 ≤ b && b ≤ 0x39) = true
    · simpa [UInt8.le_iff_toNat_le] using hc
    · rw [digit?, if_neg hc] at h
      cases h
  have hne (n : UInt8) (hn : n.toNat < 0x30 ∨ 0x39 < n.toNat) : b ≠ n := by
    rintro rfl
    omega
  refine ⟨?_, hne _ (by decide), hne _ (by decide), hne _ (by decide), hne _ (by decide), hne _ (by decide), hne _ (by decide)⟩
  simp only [isBlank, beq_eq_false_iff_ne.mpr (hne 0x20 (by decide)), beq_eq_false_iff_ne.mpr (hne 0x0a (by decide)),
    beq_eq_false_iff_ne.mpr (hne 0x09 (by decide)), beq_eq_false_iff_ne.mpr (hne 0x0d (by decide)), Bool.or_self]

/-- A digit begins a number. -/
theorem seen_readValue_digit {s : Octets} {b : UInt8} {t : Octets} (h : skipBlanks s = b :: t) (hb : (digit? b).isSome = true) :
    (readValue s).seen = (readNumber b false (b :: t)).seen := by
  obtain ⟨-, -, h1, h2, h3, h4, h5⟩ := marks_of_digit hb
  rw [seen_readValue h, if_neg h1, if_neg h2, if_neg h3, if_neg h4, if_neg h5, if_pos hb]

/-- A bracket ends a list. -/
theorem seen_readItems_close {first : Bool} {s t : Octets} (h : skipBlanks s = octet ']' :: t) :
    (readItems first s).seen = (.done, some t) := by
  rw [readItems]
  split
  · next h' => rw [h] at h'; cases h'
  · next b' t' h' =>
    rw [h] at h'
    cases h'
    simp only [if_true, Read.seen_go]

/-- An item is read before those behind it. -/
theorem seen_readItem {bound : Nat} {s : Octets} (hs : s.length ≤ bound) {r : Reading} {rest : Octets}
    (h : (readValue s).seen = (r, some rest)) :
    (readItem s hs).seen = (.cons r (readItems false rest).seen.1, (readItems false rest).seen.2) := by
  obtain ⟨h1, h2⟩ := Prod.mk.inj h
  rw [readItem]
  split
  · next h' => rw [h2] at h'; cases h'
  · next rest' h' =>
    rw [h2] at h'
    cases h'
    simp only [Read.seen_widen, Read.seen_map, h1]

/-- The first item of a list stands behind its bracket. -/
theorem seen_readItems_first {s : Octets} {b : UInt8} {t : Octets} (hs : skipBlanks s = b :: t) (hb : b ≠ octet ']')
    {r : Reading} {rest : Octets} (h : (readValue (b :: t)).seen = (r, some rest)) :
    (readItems true s).seen = (.cons r (readItems false rest).seen.1, (readItems false rest).seen.2) := by
  rw [readItems]
  split
  · next h' => rw [hs] at h'; cases h'
  · next b' t' h' =>
    rw [hs] at h'
    cases h'
    simp only [hb, if_false, if_true, seen_readItem _ h]

/-- Another item stands behind a comma. -/
theorem seen_readItems_next {s t : Octets} {b : UInt8} {u : Octets} (hs : skipBlanks s = octet ',' :: t)
    (ht : skipBlanks t = b :: u) (hb : b ≠ octet ']') {r : Reading} {rest : Octets}
    (h : (readValue (b :: u)).seen = (r, some rest)) :
    (readItems false s).seen = (.cons r (readItems false rest).seen.1, (readItems false rest).seen.2) := by
  rw [readItems]
  split
  · next h' => rw [hs] at h'; cases h'
  · next b' t' h' =>
    rw [hs] at h'
    cases h'
    simp only [show octet ',' ≠ octet ']' by decide, if_false, Bool.false_eq_true, if_true]
    split
    · next h' => rw [ht] at h'; cases h'
    · next c' u' h' =>
      rw [ht] at h'
      cases h'
      simp only [hb, if_false, seen_readItem _ h]

/-- A brace ends an object. -/
theorem seen_readMembers_close {first : Bool} {s t : Octets} (h : skipBlanks s = octet '\x7d' :: t) :
    (readMembers first s).seen = (.done, some t) := by
  rw [readMembers]
  split
  · next h' => rw [h] at h'; cases h'
  · next b' t' h' =>
    rw [h] at h'
    cases h'
    simp only [if_true, Read.seen_go]

/-- A member is read before those behind it: its name, a colon, and its value. -/
theorem seen_readMember {bound : Nat} {s t u : Octets} (hs : s.length ≤ bound) {name r : Reading} {rest : Octets}
    (hn : (readQuoted s).seen = (name, some t)) (hc : skipBlanks t = octet ':' :: u)
    (h : (readValue u).seen = (r, some rest)) :
    (readMember s hs).seen = (.cons name r (readMembers false rest).seen.1, (readMembers false rest).seen.2) := by
  obtain ⟨h1, h2⟩ := Prod.mk.inj hn
  obtain ⟨h3, h4⟩ := Prod.mk.inj h
  rw [readMember]
  split
  · next h' => rw [h2] at h'; cases h'
  · next t' h' =>
    rw [h2] at h'
    cases h'
    simp only
    split
    · next h' => rw [hc] at h'; cases h'
    · next b' u' h' =>
      rw [hc] at h'
      cases h'
      simp only [if_true]
      split
      · next h' => rw [h4] at h'; cases h'
      · next rest' h' =>
        rw [h4] at h'
        cases h'
        simp only [Read.seen_widen, Read.seen_map, h1, h3]

/-- The first member of an object stands behind its brace. -/
theorem seen_readMembers_first {s t u v : Octets} (hs : skipBlanks s = octet '"' :: t) {name r : Reading} {rest : Octets}
    (hn : (readQuoted t).seen = (name, some u)) (hc : skipBlanks u = octet ':' :: v)
    (h : (readValue v).seen = (r, some rest)) :
    (readMembers true s).seen = (.cons name r (readMembers false rest).seen.1, (readMembers false rest).seen.2) := by
  rw [readMembers]
  split
  · next h' => rw [hs] at h'; cases h'
  · next b' t' h' =>
    rw [hs] at h'
    cases h'
    simp only [show octet '"' ≠ octet '\x7d' by decide, if_false, if_true, seen_readMember _ hn hc h]

/-- Another member stands behind a comma. -/
theorem seen_readMembers_next {s t u v w : Octets} (hs : skipBlanks s = octet ',' :: t)
    (ht : skipBlanks t = octet '"' :: u) {name r : Reading} {rest : Octets}
    (hn : (readQuoted u).seen = (name, some v)) (hc : skipBlanks v = octet ':' :: w)
    (h : (readValue w).seen = (r, some rest)) :
    (readMembers false s).seen = (.cons name r (readMembers false rest).seen.1, (readMembers false rest).seen.2) := by
  rw [readMembers]
  split
  · next h' => rw [hs] at h'; cases h'
  · next b' t' h' =>
    rw [hs] at h'
    cases h'
    simp only [show octet ',' ≠ octet '\x7d' by decide, if_false, Bool.false_eq_true, if_true]
    split
    · next h' => rw [ht] at h'; cases h'
    · next c' u' h' =>
      rw [ht] at h'
      cases h'
      simp only [if_true, seen_readMember _ hn hc h]

/-! ## What is written -/

/-- The octets of a whole number: its sign, and its digits. -/
theorem octets_integer (n : Int) :
    Text.octets (toString n) = (if n < 0 then [octet '-'] else []) ++ Text.encode (Nat.toDigits 10 n.natAbs) := by
  rw [Int.toString_eq_repr, Int.repr_eq_if]
  by_cases hn : n < 0
  · rw [if_neg (by omega), if_pos hn, Text.octets_append, show (-n).toNat = n.natAbs by omega]
    exact congrArg ([octet '-'] ++ ·) (Text.octets_ofList _)
  · rw [if_pos (by omega), if_neg hn, show n.toNat = n.natAbs by omega]
    exact Text.octets_ofList _

/-- The items behind an item, and what follows their list. -/
def itemsTail (vs : List Json) (rest : Octets) : Octets :=
  match vs with
  | [] => octet ']' :: rest
  | w :: ws => octet ',' :: (Text.octets (compactItems (w :: ws)) ++ octet ']' :: rest)

/-- The members behind a member, and what follows their object. -/
def membersTail (ms : List (String × Json)) (rest : Octets) : Octets :=
  match ms with
  | [] => octet '\x7d' :: rest
  | m :: ms => octet ',' :: (Text.octets (compactMembers (m :: ms)) ++ octet '\x7d' :: rest)

theorem octets_array (vs : List Json) (rest : Octets) :
    Text.octets (compact (.array vs)) ++ rest = octet '[' :: (Text.octets (compactItems vs) ++ octet ']' :: rest) := by
  rw [compact, Text.octets_append, Text.octets_append, List.append_assoc, List.append_assoc]
  rfl

theorem octets_object (ms : List (String × Json)) (rest : Octets) :
    Text.octets (compact (.object ms)) ++ rest =
      octet '\x7b' :: (Text.octets (compactMembers ms) ++ octet '\x7d' :: rest) := by
  rw [compact, Text.octets_append, Text.octets_append, List.append_assoc, List.append_assoc]
  rfl

theorem octets_items (v : Json) (vs : List Json) (rest : Octets) :
    Text.octets (compactItems (v :: vs)) ++ octet ']' :: rest = Text.octets v.compact ++ itemsTail vs rest := by
  cases vs with
  | nil => rw [compactItems, itemsTail]
  | cons w ws =>
    rw [compactItems, Text.octets_append, Text.octets_append, itemsTail, List.append_assoc, List.append_assoc]
    rfl

theorem octets_members (name : String) (v : Json) (ms : List (String × Json)) (rest : Octets) :
    Text.octets (compactMembers ((name, v) :: ms)) ++ octet '\x7d' :: rest =
      octet '"' :: (Text.encode (name.toList.flatMap escapeChar) ++ octet '"' :: octet ':' ::
        (Text.octets v.compact ++ membersTail ms rest)) := by
  have hc : Text.octets ":" = [octet ':'] := rfl
  cases ms with
  | nil =>
    rw [compactMembers, Text.octets_append, Text.octets_append, octets_quoted, hc, membersTail]
    simp only [List.cons_append, List.append_assoc, List.nil_append]
  | cons m ms =>
    have hm : Text.octets "," = [octet ','] := rfl
    rw [compactMembers, Text.octets_append, Text.octets_append, Text.octets_append, Text.octets_append, octets_quoted, hc, hm,
      membersTail]
    simp only [List.cons_append, List.append_assoc, List.nil_append]

/-- No numeral goes on behind an item or a member. -/
theorem endsNumeral_cons {b : UInt8} (h : digit? b = none ∧ b ≠ octet '.' ∧ b ≠ octet 'e' ∧ b ≠ octet 'E') (rest : Octets) :
    EndsNumeral (b :: rest) := by
  intro c hc
  cases hc
  exact h

theorem endsNumeral_itemsTail (vs : List Json) (rest : Octets) : EndsNumeral (itemsTail vs rest) := by
  cases vs <;> exact endsNumeral_cons (by decide) _

theorem endsNumeral_membersTail (ms : List (String × Json)) (rest : Octets) : EndsNumeral (membersTail ms rest) := by
  cases ms <;> exact endsNumeral_cons (by decide) _

/-- The octets of a number begin with its sign or a digit. -/
theorem octets_integer_cons (n : Int) : ∃ b t, Text.octets (toString n) = b :: t ∧ (b = octet '-' ∨ (digit? b).isSome = true) := by
  rw [octets_integer]
  by_cases hn : n < 0
  · rw [if_pos hn]
    exact ⟨_, _, rfl, Or.inl rfl⟩
  · rw [if_neg hn, List.nil_append, encode_digits fun c => Decimal.isDigit_of_mem]
    cases hl : Nat.toDigits 10 n.natAbs with
    | nil => exact absurd hl Nat.toDigits_ne_nil
    | cons c ds =>
      refine ⟨_, _, rfl, Or.inr ?_⟩
      rw [digit?_ofChar (Decimal.isDigit_of_mem (hl ▸ List.mem_cons_self))]
      rfl

/-- A value that was written begins with no blank, and not with a bracket that ends a list. -/
theorem octets_compact_cons {v : Json} (hv : v.IsExact) :
    ∃ b t, Text.octets v.compact = b :: t ∧ isBlank b = false ∧ b ≠ octet ']' := by
  cases v with
  | null => exact ⟨octet 'n', [octet 'u', octet 'l', octet 'l'], rfl, rfl, by decide⟩
  | bool b =>
    cases b with
    | false => exact ⟨octet 'f', [octet 'a', octet 'l', octet 's', octet 'e'], rfl, rfl, by decide⟩
    | true => exact ⟨octet 't', [octet 'r', octet 'u', octet 'e'], rfl, rfl, by decide⟩
  | number n =>
    cases n with
    | integer n =>
      obtain ⟨b, t, h, hb⟩ := octets_integer_cons n
      refine ⟨b, t, by rw [compact]; exact h, ?_⟩
      rcases hb with rfl | hb
      · decide
      · exact ⟨(marks_of_digit hb).1, (marks_of_digit hb).2.1⟩
    | double x => exact hv.elim
  | text s => exact ⟨_, _, by rw [compact, octets_quoted], rfl, by decide⟩
  | array vs => exact ⟨octet '[', _, by rw [compact, Text.octets_append, Text.octets_append]; rfl, rfl, by decide⟩
  | object ms => exact ⟨octet '\x7b', _, by rw [compact, Text.octets_append, Text.octets_append]; rfl, rfl, by decide⟩

/-! ## Reading what was written -/

/-- A number that was written is read. -/
theorem seen_integer {n : Int} (hn : Numeral.IsExact n) {rest : Octets} (hr : EndsNumeral rest) :
    (readValue (Text.octets (toString n) ++ rest)).seen = (.number (.ok (.integer n)), some rest) := by
  obtain ⟨hlow, hhigh⟩ := hn
  rw [octets_integer]
  by_cases hneg : n < 0
  · have hsize : n.natAbs < UInt64.size := by rw [UInt64.size]; omega
    have hvalue : (if true = true then -(n.natAbs : Int) else n.natAbs) = n := by rw [if_pos rfl]; omega
    rw [if_pos hneg, List.append_assoc, List.singleton_append, seen_readValue_sign (skipBlanks_cons (by decide) _),
      readNumber_written hsize (fun _ => by omega) hr, hvalue]
  · have hsize : n.natAbs < UInt64.size := by rw [UInt64.size]; omega
    have hvalue : (if false = true then -(n.natAbs : Int) else n.natAbs) = n := by rw [if_neg (by decide)]; omega
    have hd : ∀ c ∈ Nat.toDigits 10 n.natAbs, c.isDigit = true := fun c => Decimal.isDigit_of_mem
    rw [if_neg hneg, List.nil_append]
    cases hl : Nat.toDigits 10 n.natAbs with
    | nil => exact absurd hl Nat.toDigits_ne_nil
    | cons c ds =>
      have hc : (digit? (UInt8.ofNat c.toNat)).isSome = true := by
        rw [digit?_ofChar (hd c (hl ▸ List.mem_cons_self))]
        rfl
      have hsign : false = true → n.natAbs ≠ 0 ∧ n.natAbs ≤ 0x8000000000000000 := fun h => absurd h (by decide)
      have hw := @readNumber_written (UInt8.ofNat c.toNat) false n.natAbs hsize hsign rest hr
      rw [hvalue, hl, encode_digits (hl ▸ hd), List.map_cons, List.cons_append] at hw
      rw [encode_digits (hl ▸ hd), List.map_cons, List.cons_append,
        seen_readValue_digit (skipBlanks_cons (marks_of_digit hc).1 _) hc, hw]

/-- The word for no value is read. -/
theorem seen_null (rest : Octets) :
    (readValue (octet 'n' :: octet 'u' :: octet 'l' :: octet 'l' :: rest)).seen = (.null, some rest) := by
  rw [seen_readValue (skipBlanks_cons (by decide) _), if_pos rfl, seen_readWord]
  simp only [expectWord, if_true]

/-- The word for yes is read. -/
theorem seen_true (rest : Octets) :
    (readValue (octet 't' :: octet 'r' :: octet 'u' :: octet 'e' :: rest)).seen = (.bool true, some rest) := by
  rw [seen_readValue (skipBlanks_cons (by decide) _), if_neg (by decide), if_pos rfl, seen_readWord]
  simp only [expectWord, if_true]

/-- The word for no is read. -/
theorem seen_false (rest : Octets) :
    (readValue (octet 'f' :: octet 'a' :: octet 'l' :: octet 's' :: octet 'e' :: rest)).seen = (.bool false, some rest) := by
  rw [seen_readValue (skipBlanks_cons (by decide) _), if_neg (by decide), if_neg (by decide), if_pos rfl, seen_readWord]
  simp only [expectWord, if_true]

/-- A text that was written is read. -/
theorem seen_text (s : String) (rest : Octets) :
    (readValue (Text.octets (quoted s) ++ rest)).seen = (.quoted (.ok s), some rest) := by
  rw [octets_quoted, List.cons_append, seen_readValue_quote (skipBlanks_cons (by decide) _), List.append_assoc,
    List.singleton_append, readQuoted_written]

/-- The first item of a list is read behind the bracket. -/
theorem seen_items_first {v : Json} (hv : v.IsExact) {tail : Octets} {r : Reading}
    (h : (readValue (Text.octets v.compact ++ tail)).seen = (r, some tail)) :
    (readItems true (Text.octets v.compact ++ tail)).seen =
      (.cons r (readItems false tail).seen.1, (readItems false tail).seen.2) := by
  obtain ⟨b, t, hs, hb, hne⟩ := octets_compact_cons hv
  rw [hs, List.cons_append] at h ⊢
  exact seen_readItems_first (skipBlanks_cons hb _) hne h

/-- Another item is read behind a comma. -/
theorem seen_items_next {v : Json} (hv : v.IsExact) {tail : Octets} {r : Reading}
    (h : (readValue (Text.octets v.compact ++ tail)).seen = (r, some tail)) :
    (readItems false (octet ',' :: (Text.octets v.compact ++ tail))).seen =
      (.cons r (readItems false tail).seen.1, (readItems false tail).seen.2) := by
  obtain ⟨b, t, hs, hb, hne⟩ := octets_compact_cons hv
  rw [hs, List.cons_append] at h ⊢
  exact seen_readItems_next (skipBlanks_cons (by decide) _) (skipBlanks_cons hb _) hne h

mutual

/-- A value that was written is read. -/
theorem seen_compact (v : Json) (hv : v.IsExact) (rest : Octets) (hr : EndsNumeral rest) :
    ∃ r, (readValue (Text.octets v.compact ++ rest)).seen = (r, some rest) ∧ r.Shows v := by
  cases v with
  | null => exact ⟨.null, seen_null rest, .null⟩
  | bool b =>
    cases b with
    | false => exact ⟨.bool false, seen_false rest, .bool false⟩
    | true => exact ⟨.bool true, seen_true rest, .bool true⟩
  | number n =>
    cases n with
    | integer n => exact ⟨_, by rw [compact]; exact seen_integer hv hr, .number (.integer n)⟩
    | double x => exact hv.elim
  | text s => exact ⟨_, by rw [compact]; exact seen_text s rest, .text s⟩
  | array vs =>
    rw [octets_array]
    cases vs with
    | nil =>
      rw [seen_readValue_bracket (skipBlanks_cons (by decide) _), compactItems, show Text.octets "" = [] from rfl,
        List.nil_append, seen_readItems_close (skipBlanks_cons (by decide) rest)]
      exact ⟨_, rfl, .list .done⟩
    | cons v vs =>
      obtain ⟨r, h1, h2⟩ := seen_compact v hv.1 (itemsTail vs rest) (endsNumeral_itemsTail vs rest)
      obtain ⟨items, h3, h4⟩ := seen_itemsTail vs hv.2 rest
      rw [seen_readValue_bracket (skipBlanks_cons (by decide) _), octets_items, seen_items_first hv.1 h1, h3]
      exact ⟨_, rfl, .list (.cons h2 h4)⟩
  | object ms =>
    rw [octets_object]
    cases ms with
    | nil =>
      rw [seen_readValue_brace (skipBlanks_cons (by decide) _), compactMembers, show Text.octets "" = [] from rfl,
        List.nil_append, seen_readMembers_close (skipBlanks_cons (by decide) rest)]
      exact ⟨_, rfl, .object .done⟩
    | cons m ms =>
      obtain ⟨name, v⟩ := m
      obtain ⟨r, h1, h2⟩ := seen_compact v hv.1 (membersTail ms rest) (endsNumeral_membersTail ms rest)
      obtain ⟨members, h3, h4⟩ := seen_membersTail ms hv.2 rest
      rw [seen_readValue_brace (skipBlanks_cons (by decide) _), octets_members,
        seen_readMembers_first (skipBlanks_cons (by decide) _) (readQuoted_written name _) (skipBlanks_cons (by decide) _) h1, h3]
      exact ⟨_, rfl, .object (.cons h2 h4)⟩

/-- The items behind an item are read. -/
theorem seen_itemsTail (vs : List Json) (hv : AreExact vs) (rest : Octets) :
    ∃ items, (readItems false (itemsTail vs rest)).seen = (items, some rest) ∧ items.Show vs := by
  cases vs with
  | nil => exact ⟨.done, seen_readItems_close (skipBlanks_cons (by decide) rest), .done⟩
  | cons w ws =>
    obtain ⟨r, h1, h2⟩ := seen_compact w hv.1 (itemsTail ws rest) (endsNumeral_itemsTail ws rest)
    obtain ⟨items, h3, h4⟩ := seen_itemsTail ws hv.2 rest
    refine ⟨_, ?_, .cons h2 h4⟩
    rw [itemsTail, octets_items, seen_items_next hv.1 h1, h3]

/-- The members behind a member are read. -/
theorem seen_membersTail (ms : List (String × Json)) (hm : HaveExact ms) (rest : Octets) :
    ∃ members, (readMembers false (membersTail ms rest)).seen = (members, some rest) ∧ members.Show ms := by
  cases ms with
  | nil => exact ⟨.done, seen_readMembers_close (skipBlanks_cons (by decide) rest), .done⟩
  | cons m ms =>
    obtain ⟨name, v⟩ := m
    obtain ⟨r, h1, h2⟩ := seen_compact v hm.1 (membersTail ms rest) (endsNumeral_membersTail ms rest)
    obtain ⟨members, h3, h4⟩ := seen_membersTail ms hm.2 rest
    refine ⟨_, ?_, .cons h2 h4⟩
    rw [membersTail, octets_members, seen_readMembers_next (skipBlanks_cons (by decide) _) (skipBlanks_cons (by decide) _)
      (readQuoted_written name _) (skipBlanks_cons (by decide) _) h1, h3]

end

/-- A value that was written is read, with nothing left. -/
theorem Reading.ofOctets_compact {v : Json} (hv : v.IsExact) :
    ∃ r, Reading.ofOctets (Text.octets v.compact) = (r, some []) ∧ r.Shows v := by
  obtain ⟨r, h1, h2⟩ := seen_compact v hv [] (fun b hb => by cases hb)
  rw [List.append_nil] at h1
  exact ⟨r, h1, h2⟩

end ControlPlane.Json
