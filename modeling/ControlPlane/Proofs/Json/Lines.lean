import ControlPlane.Proofs.Json.Values

/-!
# Values come back from a JSON text in lines

A value that was written with a line for each item and member is read again, where each of its numbers is a whole one of 64 bits
(`Reading.ofOctets_pretty`). What is read shows the value, as it does where the value was written without blanks.
-/

namespace ControlPlane.Json

/-! ## Blanks -/

theorem isBlank_of_mem_indent {depth : Nat} : ∀ b ∈ Text.octets (indent depth), isBlank b = true := by
  intro b hb
  have hspaces : Text.encode (List.replicate (2 * depth) ' ') = List.replicate (2 * depth) (octet ' ') := by
    induction 2 * depth with
    | zero => rfl
    | succ n ih => rw [List.replicate_succ, List.replicate_succ, ← ih]; rfl
  rw [indent, Text.octets_append, Text.octets_ofList (List.replicate _ _), hspaces] at hb
  rcases List.mem_append.mp hb with hb | hb
  · rw [List.mem_singleton.mp hb]
    rfl
  · rw [List.eq_of_mem_replicate hb]
    rfl

/-- The start of a line is passed over. -/
theorem skipBlanks_indent (depth : Nat) {b : UInt8} (hb : isBlank b = false) (t : Octets) :
    skipBlanks (Text.octets (indent depth) ++ b :: t) = b :: t := by
  rw [skipBlanks, List.dropWhile_append_of_pos isBlank_of_mem_indent]
  exact skipBlanks_cons hb t

/-- A value is read behind the start of a line as it is by itself. -/
theorem seen_readValue_skip {s : Octets} {b : UInt8} {t : Octets} (h : skipBlanks s = b :: t) (hb : isBlank b = false) :
    (readValue s).seen = (readValue (b :: t)).seen := by
  rw [seen_readValue h, seen_readValue (skipBlanks_cons hb t)]

/-! ## What is written -/

/-- The items behind an item, and what follows their list. -/
def linesOfItems (depth : Nat) (vs : List Json) (rest : Octets) : Octets :=
  match vs with
  | [] => Text.octets (indent depth) ++ octet ']' :: rest
  | w :: ws => octet ',' :: (Text.octets (prettyItems (depth + 1) (w :: ws)) ++ (Text.octets (indent depth) ++ octet ']' :: rest))

/-- The members behind a member, and what follows their object. -/
def linesOfMembers (depth : Nat) (ms : List (String × Json)) (rest : Octets) : Octets :=
  match ms with
  | [] => Text.octets (indent depth) ++ octet '\x7d' :: rest
  | m :: ms =>
    octet ',' :: (Text.octets (prettyMembers (depth + 1) (m :: ms)) ++ (Text.octets (indent depth) ++ octet '\x7d' :: rest))

theorem octets_prettyArray (depth : Nat) (v : Json) (vs : List Json) (rest : Octets) :
    Text.octets (prettyAt depth (.array (v :: vs))) ++ rest =
      octet '[' :: (Text.octets (prettyItems (depth + 1) (v :: vs)) ++ (Text.octets (indent depth) ++ octet ']' :: rest)) := by
  have hopen : Text.octets "[" = [octet '['] := rfl
  have hclose : Text.octets "]" = [octet ']'] := rfl
  simp only [prettyAt, Text.octets_append, hopen, hclose, List.append_assoc, List.cons_append, List.nil_append]

theorem octets_prettyObject (depth : Nat) (m : String × Json) (ms : List (String × Json)) (rest : Octets) :
    Text.octets (prettyAt depth (.object (m :: ms))) ++ rest =
      octet '\x7b' :: (Text.octets (prettyMembers (depth + 1) (m :: ms)) ++ (Text.octets (indent depth) ++ octet '\x7d' :: rest)) := by
  have hopen : Text.octets "\x7b" = [octet '\x7b'] := rfl
  have hclose : Text.octets "\x7d" = [octet '\x7d'] := rfl
  simp only [prettyAt, Text.octets_append, hopen, hclose, List.append_assoc, List.cons_append, List.nil_append]

theorem octets_prettyItems (depth : Nat) (v : Json) (vs : List Json) (rest : Octets) :
    Text.octets (prettyItems (depth + 1) (v :: vs)) ++ (Text.octets (indent depth) ++ octet ']' :: rest) =
      Text.octets (indent (depth + 1)) ++ (Text.octets (v.prettyAt (depth + 1)) ++ linesOfItems depth vs rest) := by
  have hcomma : Text.octets "," = [octet ','] := rfl
  cases vs with
  | nil => simp only [prettyItems, Text.octets_append, linesOfItems, List.append_assoc]
  | cons w ws =>
    simp only [prettyItems, Text.octets_append, hcomma, linesOfItems, List.append_assoc, List.cons_append, List.nil_append]

theorem octets_prettyMembers (depth : Nat) (name : String) (v : Json) (ms : List (String × Json)) (rest : Octets) :
    Text.octets (prettyMembers (depth + 1) ((name, v) :: ms)) ++ (Text.octets (indent depth) ++ octet '\x7d' :: rest) =
      Text.octets (indent (depth + 1)) ++ (octet '"' :: (Text.encode (name.toList.flatMap escapeChar) ++ octet '"' :: octet ':' ::
        octet ' ' :: (Text.octets (v.prettyAt (depth + 1)) ++ linesOfMembers depth ms rest))) := by
  have hcolon : Text.octets ": " = [octet ':', octet ' '] := rfl
  have hcomma : Text.octets "," = [octet ','] := rfl
  cases ms with
  | nil =>
    simp only [prettyMembers, Text.octets_append, octets_quoted, hcolon, linesOfMembers, List.append_assoc, List.cons_append,
      List.nil_append]
  | cons m ms =>
    simp only [prettyMembers, Text.octets_append, octets_quoted, hcolon, hcomma, linesOfMembers, List.append_assoc, List.cons_append,
      List.nil_append]

theorem endsNumeral_indent (depth : Nat) (rest : Octets) : EndsNumeral (Text.octets (indent depth) ++ rest) := by
  rw [indent, Text.octets_append]
  exact endsNumeral_cons (by decide) _

theorem endsNumeral_linesOfItems (depth : Nat) (vs : List Json) (rest : Octets) : EndsNumeral (linesOfItems depth vs rest) := by
  cases vs with
  | nil => exact endsNumeral_indent depth _
  | cons w ws => exact endsNumeral_cons (by decide) _

theorem endsNumeral_linesOfMembers (depth : Nat) (ms : List (String × Json)) (rest : Octets) :
    EndsNumeral (linesOfMembers depth ms rest) := by
  cases ms with
  | nil => exact endsNumeral_indent depth _
  | cons m ms => exact endsNumeral_cons (by decide) _

/-- Only lists and objects take lines. -/
theorem prettyAt_eq_compact (depth : Nat) {v : Json} (harray : ∀ vs, v ≠ .array vs) (hobject : ∀ ms, v ≠ .object ms) :
    v.prettyAt depth = v.compact := by
  cases v with
  | null => rw [prettyAt, compact]
  | bool b => cases b <;> rw [prettyAt, compact]
  | number n => rw [prettyAt, compact]
  | text s => rw [prettyAt, compact]
  | array vs => exact absurd rfl (harray vs)
  | object ms => exact absurd rfl (hobject ms)

/-- A value that was written in lines begins with no blank, and not with a bracket that ends a list. -/
theorem octets_prettyAt_cons {v : Json} (hv : v.IsExact) (depth : Nat) :
    ∃ b t, Text.octets (v.prettyAt depth) = b :: t ∧ isBlank b = false ∧ b ≠ octet ']' := by
  cases v with
  | null | bool | number | text =>
    rw [prettyAt_eq_compact depth (fun _ h => by cases h) (fun _ h => by cases h)]
    exact octets_compact_cons hv
  | array vs =>
    cases vs with
    | nil => exact ⟨octet '[', _, by rw [prettyAt]; rfl, rfl, by decide⟩
    | cons v vs => exact ⟨octet '[', _, by rw [← List.append_nil (Text.octets _), octets_prettyArray], rfl, by decide⟩
  | object ms =>
    cases ms with
    | nil => exact ⟨octet '\x7b', _, by rw [prettyAt]; rfl, rfl, by decide⟩
    | cons m ms => exact ⟨octet '\x7b', _, by rw [← List.append_nil (Text.octets _), octets_prettyObject], rfl, by decide⟩

/-! ## Reading what was written -/

/-- A value is read behind a blank. -/
theorem seen_readValue_blank {v : Json} (hv : v.IsExact) (depth : Nat) {rest : Octets} {r : Reading}
    (h : (readValue (Text.octets (v.prettyAt depth) ++ rest)).seen = (r, some rest)) :
    (readValue (octet ' ' :: (Text.octets (v.prettyAt depth) ++ rest))).seen = (r, some rest) := by
  obtain ⟨b, t, hs, hb, -⟩ := octets_prettyAt_cons hv depth
  rw [hs, List.cons_append] at h ⊢
  rw [← h]
  exact seen_readValue_skip (skipBlanks_cons hb _) hb

mutual

/-- A value that was written in lines is read. -/
theorem seen_prettyAt (depth : Nat) (v : Json) (hv : v.IsExact) (rest : Octets) (hr : EndsNumeral rest) :
    ∃ r, (readValue (Text.octets (v.prettyAt depth) ++ rest)).seen = (r, some rest) ∧ r.Shows v := by
  cases v with
  | null | bool | number | text =>
    rw [prettyAt_eq_compact depth (fun _ h => by cases h) (fun _ h => by cases h)]
    exact seen_compact _ hv rest hr
  | array vs =>
    cases vs with
    | nil =>
      rw [prettyAt]
      exact seen_compact (.array []) hv rest hr
    | cons v vs =>
      obtain ⟨r, h1, h2⟩ := seen_prettyAt (depth + 1) v hv.1 (linesOfItems depth vs rest) (endsNumeral_linesOfItems depth vs rest)
      obtain ⟨items, h3, h4⟩ := seen_linesOfItems depth vs hv.2 rest
      obtain ⟨b, t, hs, hb, hne⟩ := octets_prettyAt_cons hv.1 (depth + 1)
      rw [hs, List.cons_append] at h1
      rw [octets_prettyArray, seen_readValue_bracket (skipBlanks_cons (by decide) _), octets_prettyItems, hs, List.cons_append,
        seen_readItems_first (skipBlanks_indent _ hb _) hne h1, h3]
      exact ⟨_, rfl, .list (.cons h2 h4)⟩
  | object ms =>
    cases ms with
    | nil =>
      rw [prettyAt]
      exact seen_compact (.object []) hv rest hr
    | cons m ms =>
      obtain ⟨name, v⟩ := m
      obtain ⟨r, h1, h2⟩ := seen_prettyAt (depth + 1) v hv.1 (linesOfMembers depth ms rest) (endsNumeral_linesOfMembers depth ms rest)
      obtain ⟨members, h3, h4⟩ := seen_linesOfMembers depth ms hv.2 rest
      rw [octets_prettyObject, seen_readValue_brace (skipBlanks_cons (by decide) _), octets_prettyMembers,
        seen_readMembers_first (skipBlanks_indent _ (by decide) _) (readQuoted_written name _) (skipBlanks_cons (by decide) _)
          (seen_readValue_blank hv.1 _ h1), h3]
      exact ⟨_, rfl, .object (.cons h2 h4)⟩

/-- The items behind an item are read. -/
theorem seen_linesOfItems (depth : Nat) (vs : List Json) (hv : AreExact vs) (rest : Octets) :
    ∃ items, (readItems false (linesOfItems depth vs rest)).seen = (items, some rest) ∧ items.Show vs := by
  cases vs with
  | nil => exact ⟨.done, seen_readItems_close (skipBlanks_indent depth (by decide) rest), .done⟩
  | cons w ws =>
    obtain ⟨r, h1, h2⟩ := seen_prettyAt (depth + 1) w hv.1 (linesOfItems depth ws rest) (endsNumeral_linesOfItems depth ws rest)
    obtain ⟨items, h3, h4⟩ := seen_linesOfItems depth ws hv.2 rest
    obtain ⟨b, t, hs, hb, hne⟩ := octets_prettyAt_cons hv.1 (depth + 1)
    refine ⟨_, ?_, .cons h2 h4⟩
    rw [hs, List.cons_append] at h1
    rw [linesOfItems, octets_prettyItems, hs, List.cons_append,
      seen_readItems_next (skipBlanks_cons (by decide) _) (skipBlanks_indent _ hb _) hne h1, h3]

/-- The members behind a member are read. -/
theorem seen_linesOfMembers (depth : Nat) (ms : List (String × Json)) (hm : HaveExact ms) (rest : Octets) :
    ∃ members, (readMembers false (linesOfMembers depth ms rest)).seen = (members, some rest) ∧ members.Show ms := by
  cases ms with
  | nil => exact ⟨.done, seen_readMembers_close (skipBlanks_indent depth (by decide) rest), .done⟩
  | cons m ms =>
    obtain ⟨name, v⟩ := m
    obtain ⟨r, h1, h2⟩ := seen_prettyAt (depth + 1) v hm.1 (linesOfMembers depth ms rest) (endsNumeral_linesOfMembers depth ms rest)
    obtain ⟨members, h3, h4⟩ := seen_linesOfMembers depth ms hm.2 rest
    refine ⟨_, ?_, .cons h2 h4⟩
    rw [linesOfMembers, octets_prettyMembers, seen_readMembers_next (skipBlanks_cons (by decide) _)
      (skipBlanks_indent _ (by decide) _) (readQuoted_written name _) (skipBlanks_cons (by decide) _)
      (seen_readValue_blank hm.1 _ h1), h3]

end

/-- A value that was written in lines is read, with nothing left. -/
theorem Reading.ofOctets_pretty {v : Json} (hv : v.IsExact) :
    ∃ r, Reading.ofOctets (Text.octets v.pretty) = (r, some []) ∧ r.Shows v := by
  obtain ⟨r, h1, h2⟩ := seen_prettyAt 0 v hv [] (fun b hb => by cases hb)
  rw [List.append_nil] at h1
  exact ⟨r, h1, h2⟩

end ControlPlane.Json
