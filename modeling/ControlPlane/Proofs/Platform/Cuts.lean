import ControlPlane.Page
import ControlPlane.Platform.Cut
import ControlPlane.Proofs.Text.Digits

/-!
# Pages that make up a list

A platform reads from the pairs of a query just what the query asks for (`Cut.ofPairs_narrowed`). The pages that it cuts from a list
make up the list, one after another: each page holds the first items of what is left of the list (`Cut.slice_append_take`), and as
many pages as are counted hold all of it (`Cut.take_all`).
-/

namespace ControlPlane

open Query (Direction Filter)

/-- The query for the entities that carry a name, if one is given. -/
def Query.narrowed (name : Option String) (perPage : Option UInt32) (direction : Option Direction) : Query where
  filters := (name.map .named).toList
  perPage := perPage
  direction := direction

namespace Platform.Cut

/-! ## What pairs ask for -/

/-- A number that was written is read, and is at least one. -/
theorem positive_written (usual n : UInt32) : positive usual (toString n.toNat) = max 1 n := by
  rw [positive, Decimal.word32?_toString, Option.getD_some]

/-- The filter for a name asks for that name. -/
theorem filteredName?_named (name : String) : filteredName? (Filter.named name).text = some name := by
  have ht : (Filter.named name).text.toList = 'n' :: 'a' :: 'm' :: 'e' :: ':' :: name.toList := by
    simp [Filter.named, Filter.eq, Filter.text, Query.Comparison.sign]
  simp only [filteredName?, ht, String.ofList_toList]

theorem note_page (c : Cut) (n : UInt32) : c.note ("page", toString n.toNat) = { c with page := max 1 n } := by
  rw [note, if_pos rfl, positive_written]

theorem note_size (c : Cut) (n : UInt32) : c.note ("results-per-page", toString n.toNat) = { c with size := max 1 n } := by
  rw [note, if_neg (by simp), if_pos rfl, positive_written]

/-- The name that filters ask for: that of the last filter for one. -/
def lastName? (filters : List Filter) : Option String := (filters.filterMap fun f => filteredName? f.text).getLast?

theorem lastName?_named (names : List String) : lastName? (names.map .named) = names.getLast? := by
  rw [lastName?, List.filterMap_map]
  congr 1
  rw [show ((fun f : Filter => filteredName? f.text) ∘ Filter.named) = some from funext filteredName?_named, List.filterMap_some]

/-- A later filter for a name counts before an earlier one. -/
theorem lastName?_cons (f : Filter) (filters : List Filter) :
    lastName? (f :: filters) = (lastName? filters <|> filteredName? f.text) := by
  unfold lastName?
  rw [List.filterMap_cons]
  cases filteredName? f.text with
  | none => cases (filters.filterMap fun f => filteredName? f.text).getLast? <;> rfl
  | some name =>
    rw [List.getLast?_cons]
    cases (filters.filterMap fun f => filteredName? f.text).getLast? <;> rfl

/-- Filters leave the page and its size, and ask for the last name among them. -/
theorem foldl_note_filters (filters : List Filter) (c : Cut) :
    (filters.map fun f => ("q", f.text)).foldl note c = { c with name := lastName? filters <|> c.name } := by
  induction filters generalizing c with
  | nil => rfl
  | cons f filters ih =>
    have hnote : c.note ("q", f.text) = { c with name := filteredName? f.text <|> c.name } := by
      rw [note, if_neg (by simp), if_neg (by simp), if_pos rfl]
    rw [List.map_cons, List.foldl_cons, hnote, ih, lastName?_cons]
    cases lastName? filters <;> rfl

/-- Pairs with keys that have no meaning for a list change nothing. -/
theorem foldl_note_others {extra : List (String × String)}
    (h : ∀ p ∈ extra, p.1 ≠ "page" ∧ p.1 ≠ "results-per-page" ∧ p.1 ≠ "q") (c : Cut) : extra.foldl note c = c := by
  induction extra with
  | nil => rfl
  | cons p extra ih =>
    obtain ⟨h1, h2, h3⟩ := h p List.mem_cons_self
    rw [List.foldl_cons, note, if_neg h1, if_neg h2, if_neg h3]
    exact ih fun q hq => h q (List.mem_cons_of_mem p hq)

/-- The pairs of a query ask for the page, for its size and for the last name, where both numbers are at least one. -/
theorem ofPairs_pairs (query : Query) (number : UInt32) {extra : List (String × String)}
    (h : ∀ p ∈ extra, p.1 ≠ "page" ∧ p.1 ≠ "results-per-page" ∧ p.1 ≠ "q") :
    ofPairs (query.pairs number ++ extra) = ⟨max 1 number, max 1 query.pageSize, lastName? query.filters⟩ := by
  have hd : ∀ p ∈ (query.direction.map fun d => ("order-direction", d.word)).toList ++ extra,
      p.1 ≠ "page" ∧ p.1 ≠ "results-per-page" ∧ p.1 ≠ "q" := by
    intro p hp
    rcases List.mem_append.mp hp with hp | hp
    · cases hdirection : query.direction with
      | none =>
        rw [hdirection] at hp
        cases hp
      | some d =>
        rw [hdirection] at hp
        rw [List.mem_singleton.mp hp]
        dsimp only
        decide
    · exact h p hp
  rw [Query.pairs, List.append_assoc, List.append_assoc, ofPairs, List.foldl_append, List.foldl_append, foldl_note_filters,
    foldl_note_others hd]
  simp only [List.foldl_cons, List.foldl_nil, note_page, note_size]
  cases lastName? query.filters <;> rfl

/-- The pairs of a query for a name ask for the page, for its size and for the name. -/
theorem ofPairs_narrowed (name : Option String) (perPage : Option UInt32) (direction : Option Direction) (number : UInt32)
    {extra : List (String × String)} (h : ∀ p ∈ extra, p.1 ≠ "page" ∧ p.1 ≠ "results-per-page" ∧ p.1 ≠ "q") :
    ofPairs ((Query.narrowed name perPage direction).pairs number ++ extra) =
      ⟨max 1 number, max 1 (Query.narrowed name perPage direction).pageSize, name⟩ := by
  have hname : lastName? (Query.narrowed name perPage direction).filters = name := by
    cases name with
    | none => rfl
    | some name => exact lastName?_named [name]
  rw [ofPairs_pairs _ _ h, hname]

/-! ## Pages -/

variable {α : Type}

/-- A page and what is on the pages behind it is what is on the pages from it on. -/
theorem slice_append_take (items : List α) {number : Nat} (h : 1 ≤ number) (size : Nat) {left : Nat} :
    slice items number size ++ (items.drop (number * size)).take (left * size) =
      (items.drop ((number - 1) * size)).take ((left + 1) * size) := by
  have hn : number * size = (number - 1) * size + size := by
    rw [← Nat.succ_mul, Nat.succ_eq_add_one, Nat.sub_add_cancel h]
  rw [slice, hn, ← List.drop_drop, Nat.succ_mul, Nat.add_comm (left * size) size, List.take_add]

/-- The pages of a list have room for all its items. -/
theorem length_le_pageCount (length : Nat) {size : Nat} (h : 0 < size) : length ≤ pageCount length size * size := by
  have hlt : length + size - 1 < (length + size - 1) / size * size + size := Nat.lt_div_mul_add h
  rw [pageCount]
  omega

/-- As many pages as a list has, or more, hold all its items. -/
theorem take_all (items : List α) {size pages : Nat} (h : 0 < size) (hp : pageCount items.length size ≤ pages) :
    items.take (pages * size) = items :=
  List.take_of_length_le (Nat.le_trans (length_le_pageCount items.length h) (Nat.mul_le_mul_right size hp))

/-- The pages that are counted hold all items of a list where their number can be sent. -/
theorem take_counted (items : List α) {size : Nat} (h : 0 < size) (hp : pageCount items.length size < 2 ^ 32) :
    items.take (max 1 (pageCount items.length size).toUInt32.toNat * size) = items := by
  have hcount : (pageCount items.length size).toUInt32.toNat = pageCount items.length size := Nat.mod_eq_of_lt hp
  rw [hcount]
  exact take_all items h (Nat.le_max_right 1 _)

end Platform.Cut

end ControlPlane
