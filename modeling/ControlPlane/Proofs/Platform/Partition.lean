import ControlPlane.Proofs.Platform.Cuts
import ControlPlane.Proofs.Words
import Mathlib.Algebra.Order.Floor.Div

/-!
# Cutting a list into pages loses nothing

A platform reads from any pairs a page and a size that are at least one (`Cut.isPositive_ofPairs`), so that a page can be cut with numbers
of fixed width: none of the steps is without result (`Cut.envelope?_eq`). The pages of a size take a list apart. The main statement is
`Cut.pages_partition`.
-/

namespace ControlPlane.Platform.Cut

variable {α β : Type}

/-! ## What is asked for -/

/-- Whether what is asked for is a page, and of some size. -/
structure IsPositive (c : Cut) : Prop where
  page : 1 ≤ c.page
  size : 1 ≤ c.size

theorem one_le_positive (usual : UInt32) (value : String) : 1 ≤ positive usual value := by
  rw [positive, UInt32.le_iff_toNat_le, toNat_max_one]
  exact Nat.le_max_left 1 _

/-- A pair leaves both numbers, or sets one of them to one that is at least one. -/
theorem IsPositive.note {c : Cut} (h : c.IsPositive) (pair : String × String) : (c.note pair).IsPositive := by
  unfold Cut.note
  split
  · exact ⟨one_le_positive _ _, h.size⟩
  · split
    · exact ⟨h.page, one_le_positive _ _⟩
    · split
      · exact ⟨h.page, h.size⟩
      · exact h

/-- Whatever pairs say, a page is asked for, and of some size. -/
theorem isPositive_ofPairs (pairs : List (String × String)) : (ofPairs pairs).IsPositive := by
  have hfold (c : Cut) (h : c.IsPositive) : (pairs.foldl Cut.note c).IsPositive := by
    induction pairs generalizing c with
    | nil => exact h
    | cons pair pairs ih => exact ih (c.note pair) (h.note pair)
  exact hfold {} ⟨by decide, by decide⟩

/-! ## Pages that are cut with numbers of fixed width -/

/-- The link to the page of a number that is worked out, where there is such a page. -/
def linkIf (c : Cut) (path : String) (isThere : Bool) (number : Option (BitVec 32)) : Option (Option String) :=
  if isThere then number.map fun n => some (c.link path (.ofBitVec n)) else some none

theorem linkIf_eq (c : Cut) (path : String) {p : Prop} [Decidable p] {number : Option (BitVec 32)} {n : UInt32}
    (h : p → number = some n.toBitVec) : c.linkIf path (decide p) number = some (if p then some (c.link path n) else none) := by
  unfold linkIf
  by_cases hp : p
  · simp [hp, h hp]
  · simp [hp]

/-- The page of a list at a path, where positions in a list are numbers of 64 bits and the numbers of pages have 32. It is there if every
step on the way has a result. -/
def envelope? (c : Cut) (path : String) (items : List α) : Option (Envelope α) := do
  let size := c.size.toBitVec.setWidth 64
  let total := BitVec.ofNat 64 items.length
  let pages := UInt32.ofBitVec ((← Word.divCeil? total size).setWidth 32)
  let start ← Word.mul? (← Word.sub? (c.page.toBitVec.setWidth 64) 1) size
  let prevUrl ← c.linkIf path (1 < c.page) (Word.sub? c.page.toBitVec 1)
  let nextUrl ← c.linkIf path (c.page < pages) (Word.add? c.page.toBitVec 1)
  return { totalResults := some (.ofBitVec total), totalPages := some pages, prevUrl, nextUrl,
           resources := (items.drop start.toNat).take size.toNat }

theorem toNat_setWidth_of_word (n : UInt32) : (n.toBitVec.setWidth 64).toNat = n.toNat := by
  rw [BitVec.toNat_setWidth, UInt32.toNat_toBitVec]
  exact Nat.mod_eq_of_lt (Nat.lt_of_lt_of_le n.toNat_lt (by decide))

/-- The number of all pages has a result where the size is not zero. -/
theorem exists_count {size : UInt32} (hsize : 1 ≤ size) {length : Nat} (hlength : length < 2 ^ 64) :
    ∃ count, Word.divCeil? (BitVec.ofNat 64 length) (size.toBitVec.setWidth 64) = some count ∧
      UInt32.ofBitVec (count.setWidth 32) = (pageCount length size.toNat).toUInt32 := by
  have hsize64 := toNat_setWidth_of_word size
  have hpos : 0 < (size.toBitVec.setWidth 64).toNat := by
    rw [hsize64]
    exact UInt32.le_iff_toNat_le.mp hsize
  obtain ⟨count, hcount, hnat⟩ := Word.divCeil?_eq_some (a := BitVec.ofNat 64 length) hpos
  refine ⟨count, hcount, ?_⟩
  have htotal : (BitVec.ofNat 64 length).toNat = length := Nat.mod_eq_of_lt hlength
  rw [← UInt32.toNat_inj, UInt32.toNat_ofBitVec, BitVec.toNat_setWidth, hnat, htotal, hsize64]
  rfl

/-- The position at which a page begins has a result where the page is not before the first one. -/
theorem exists_start {page : UInt32} (hpage : 1 ≤ page) (size : UInt32) :
    ∃ before start, Word.sub? (page.toBitVec.setWidth 64) 1 = some before ∧
      Word.mul? before (size.toBitVec.setWidth 64) = some start ∧ start.toNat = (page.toNat - 1) * size.toNat := by
  have hpage64 := toNat_setWidth_of_word page
  have hsize64 := toNat_setWidth_of_word size
  have hone : (1 : BitVec 64).toNat ≤ (page.toBitVec.setWidth 64).toNat := by
    rw [hpage64]
    exact UInt32.le_iff_toNat_le.mp hpage
  have hbefore : (page.toBitVec.setWidth 64 - 1).toNat = page.toNat - 1 := by
    rw [BitVec.toNat_sub_of_le (BitVec.le_def.mpr hone), hpage64]
    rfl
  have hfits : (page.toNat - 1) * size.toNat < 2 ^ 64 := by
    have h1 := page.toNat_lt
    have h2 := size.toNat_lt
    calc (page.toNat - 1) * size.toNat ≤ 2 ^ 32 * size.toNat := Nat.mul_le_mul_right _ (by omega)
      _ < 2 ^ 32 * 2 ^ 32 := Nat.mul_lt_mul_of_pos_left h2 (by decide)
  refine ⟨_, _, Word.sub?_eq_some hone, Word.mul?_eq_some (by rw [hbefore, hsize64]; exact hfits), ?_⟩
  rw [BitVec.toNat_mul, hbefore, hsize64, Nat.mod_eq_of_lt hfits]

/-- The number of the page before has a result where there is one. -/
theorem sub?_page {page : UInt32} (h : 1 < page) : Word.sub? page.toBitVec 1 = some (page - 1).toBitVec :=
  Word.sub?_eq_some (Nat.le_of_lt (UInt32.lt_iff_toNat_lt.mp h))

/-- The number of the page after has a result where there is one. -/
theorem add?_page {page pages : UInt32} (h : page < pages) : Word.add? page.toBitVec 1 = some (page + 1).toBitVec :=
  Word.add?_eq_some (Nat.lt_of_le_of_lt (UInt32.lt_iff_toNat_lt.mp h) pages.toNat_lt)

/-- Where a page is asked for, of some size, every step has a result, and the page is the one that is cut. -/
theorem IsPositive.envelope?_eq {c : Cut} (h : c.IsPositive) (path : String) {items : List α} (hitems : items.length < 2 ^ 64) :
    c.envelope? path items = some (c.envelope path items) := by
  obtain ⟨count, hcount, hpages⟩ := exists_count h.size hitems
  obtain ⟨before, start, hbefore, hstart, hnat⟩ := exists_start h.page c.size
  have hprev := c.linkIf_eq path fun h : 1 < c.page => sub?_page h
  have hnext := c.linkIf_eq path fun h : c.page < (pageCount items.length c.size.toNat).toUInt32 => add?_page h
  simp only [envelope?, hcount, hbefore, hstart, hpages, hprev, hnext, Option.bind_eq_bind, Option.bind_some, envelope, slice, hnat,
    toNat_setWidth_of_word]
  rfl

/-! ## Pages that take a list apart -/

theorem pageCount_eq_ceilDiv (length size : Nat) : pageCount length size = length ⌈/⌉ size := (Nat.ceilDiv_eq_add_pred_div length size).symm

/-- A page is there just if the pages before it do not hold the whole list. -/
theorem lt_ceilDiv_iff (length : Nat) {size : Nat} (h : 0 < size) (k : Nat) : k < length ⌈/⌉ size ↔ k * size < length := by
  rw [← Nat.not_le, ceilDiv_le_iff_le_mul h, Nat.not_le, Nat.mul_comm]

/-- The items of pages that follow one another, from a page on. -/
theorem flatMap_slice (items : List α) (size left : Nat) {n : Nat} (hn : 1 ≤ n) :
    (List.range' n left).flatMap (slice items · size) = (items.drop ((n - 1) * size)).take (left * size) := by
  induction left generalizing n with
  | zero => simp
  | succ left ih =>
    rw [List.range'_succ, List.flatMap_cons, ih (Nat.le_succ_of_le hn), Nat.succ_sub_one, slice_append_take items hn]

/-- The items of all pages are those of the list. -/
theorem flatMap_slice_all (items : List α) {size : Nat} (h : 0 < size) :
    (List.range' 1 (items.length ⌈/⌉ size)).flatMap (slice items · size) = items := by
  rw [flatMap_slice items size _ (Nat.le_refl 1), Nat.sub_self, Nat.zero_mul, List.drop_zero, ← pageCount_eq_ceilDiv,
    take_all items h (Nat.le_refl _)]

theorem length_slice (items : List α) (page size : Nat) :
    (slice items page size).length = min size (items.length - (page - 1) * size) := by
  rw [slice, List.length_take, List.length_drop]

/-- What a page of a list shows, where the list has so many items on so many pages of a size. -/
structure IsPage (page : Envelope α) (n count size length : Nat) : Prop where
  totalPages : page.totalPages.map UInt32.toNat = some count
  totalResults : page.totalResults.map UInt64.toNat = some length
  nonempty : n ≤ count → page.resources ≠ []
  full : n < count → page.resources.length = size
  fits : page.resources.length ≤ size
  beyond : count < n → page.resources = []
  next : page.nextUrl.isSome ↔ n < count
  prev : page.prevUrl.isSome ↔ 1 < n

/-- Each page that is cut is a page of the list. -/
theorem isPage_envelope (c : Cut) (h : c.IsPositive) (path : String) (items : List α)
    (hcount : items.length ⌈/⌉ c.size.toNat < 2 ^ 32) :
    IsPage (c.envelope path items) c.page.toNat (items.length ⌈/⌉ c.size.toNat) c.size.toNat items.length := by
  have hpage : 1 ≤ c.page.toNat := UInt32.le_iff_toNat_le.mp h.page
  have hsize : 0 < c.size.toNat := UInt32.le_iff_toNat_le.mp h.size
  have hpages : (pageCount items.length c.size.toNat).toUInt32.toNat = items.length ⌈/⌉ c.size.toNat := by
    rw [pageCount_eq_ceilDiv]
    exact Nat.mod_eq_of_lt hcount
  have hlength : items.length < 2 ^ 64 := by
    have hall : items.length ≤ c.size.toNat * (items.length ⌈/⌉ c.size.toNat) :=
      (ceilDiv_le_iff_le_mul hsize).mp (Nat.le_refl _)
    have hsize32 := c.size.toNat_lt
    calc items.length ≤ c.size.toNat * (items.length ⌈/⌉ c.size.toNat) := hall
      _ ≤ 2 ^ 32 * (items.length ⌈/⌉ c.size.toNat) := Nat.mul_le_mul_right _ (Nat.le_of_lt hsize32)
      _ < 2 ^ 32 * 2 ^ 32 := Nat.mul_lt_mul_of_pos_left hcount (by decide)
  -- Whether items are left for the page and for the one after it.
  have hthere := lt_ceilDiv_iff items.length hsize (c.page.toNat - 1)
  have hmore := lt_ceilDiv_iff items.length hsize c.page.toNat
  have hnext : c.page.toNat * c.size.toNat = (c.page.toNat - 1) * c.size.toNat + c.size.toNat := by
    rw [← Nat.succ_mul, Nat.succ_eq_add_one, Nat.sub_add_cancel hpage]
  have hslice := length_slice items c.page.toNat c.size.toNat
  constructor
  case totalPages => exact congrArg some hpages
  case totalResults => exact congrArg some (Nat.mod_eq_of_lt hlength)
  case nonempty =>
    intro hle hnil
    simp only [envelope] at hnil
    rw [hnil, List.length_nil] at hslice
    omega
  case full =>
    intro hlt
    simp only [envelope]
    omega
  case fits =>
    simp only [envelope]
    omega
  case beyond =>
    intro hlt
    refine List.eq_nil_of_length_eq_zero ?_
    simp only [envelope]
    omega
  case next =>
    simp only [envelope]
    rw [Option.isSome_ite, UInt32.lt_iff_toNat_lt, hpages]
  case prev =>
    simp only [envelope]
    rw [Option.isSome_ite, UInt32.lt_iff_toNat_lt]
    rfl

/-- What stands for the items of a page makes up a page like it. -/
theorem IsPage.map {page : Envelope α} {n count size length : Nat} (h : IsPage page n count size length) (render : α → β) :
    IsPage (page.map render) n count size length where
  totalPages := h.totalPages
  totalResults := h.totalResults
  nonempty hle := mt List.map_eq_nil_iff.mp (h.nonempty hle)
  full hlt := (List.length_map render).trans (h.full hlt)
  fits := (List.length_map render).trans_le h.fits
  beyond hlt := List.map_eq_nil_iff.mpr (h.beyond hlt)
  next := h.next
  prev := h.prev

/-- Whatever pairs say, a page and a size are read from them that are at least one; so a page of any list that fits into memory is cut
with numbers of fixed width as it is with natural numbers, and no step on the way is without result. The pages of a size take a list
apart: where their number can be sent, they hold together what stands for the items, in their order, each page as much as it is to hold
but for the last one, which is not empty, and there is nothing behind it. Each page says how many pages and items there are, and links to
the page after it and to the one before just if there is one. -/
theorem pages_partition :
    (∀ pairs : List (String × String), (ofPairs pairs).IsPositive ∧
        ∀ (path : String) (items : List α), items.length < 2 ^ 64 →
          (ofPairs pairs).envelope? path items = some ((ofPairs pairs).envelope path items)) ∧
      ∀ (path : String) (name : Option String) (items : List α) (size : UInt32) (render : α → β), 1 ≤ size →
        items.length ⌈/⌉ size.toNat < 2 ^ 32 →
          let count := items.length ⌈/⌉ size.toNat
          let page (n : UInt32) : Envelope β := ((⟨n, size, name⟩ : Cut).envelope path items).map render
          (List.range' 1 count).flatMap (fun n => (page n.toUInt32).resources) = items.map render ∧
            ∀ n, 1 ≤ n → IsPage (page n) n.toNat count size.toNat items.length := by
  refine ⟨fun pairs => ⟨isPositive_ofPairs pairs, fun path items hitems => (isPositive_ofPairs pairs).envelope?_eq path hitems⟩, ?_⟩
  intro path name items size render hsize hcount count page
  refine ⟨?_, fun n hn => (isPage_envelope ⟨n, size, name⟩ ⟨hn, hsize⟩ path items hcount).map render⟩
  have hresources : ∀ n ∈ List.range' 1 count, (page n.toUInt32).resources = (slice items n size.toNat).map render := by
    intro n hn
    have hlt : n < 2 ^ 32 := by
      have := List.mem_range'_1.mp hn
      omega
    have hnat : n.toUInt32.toNat = n := Nat.mod_eq_of_lt hlt
    simp only [page, Envelope.map, envelope, hnat]
  have hall := flatMap_slice_all items (show 0 < size.toNat from UInt32.le_iff_toNat_le.mp hsize)
  calc (List.range' 1 count).flatMap (fun n => (page n.toUInt32).resources)
      = (List.range' 1 count).flatMap (fun n => (slice items n size.toNat).map render) := List.flatMap_congr hresources
    _ = ((List.range' 1 count).flatMap (slice items · size.toNat)).map render := (List.map_flatMap ..).symm
    _ = items.map render := by rw [hall]

/-- Five items, two on a page. -/
theorem pages_partition_five :
    (1 : UInt32) ≤ 2 ∧ [1, 2, 3, 4, 5].length ⌈/⌉ (2 : UInt32).toNat < 2 ^ 32 ∧
      (List.range' 1 3).flatMap (fun n => (((⟨n.toUInt32, 2, none⟩ : Cut).envelope "/v2/things" [1, 2, 3, 4, 5]).map (· * 10)).resources) =
        [10, 20, 30, 40, 50] ∧
      (ofPairs [("page", "0"), ("results-per-page", "99999999999")]).envelope? "/v2/things" [1, 2, 3, 4, 5] =
        some ((ofPairs [("page", "0"), ("results-per-page", "99999999999")]).envelope "/v2/things" [1, 2, 3, 4, 5]) := by
  have hcount : [1, 2, 3, 4, 5].length ⌈/⌉ (2 : UInt32).toNat = 3 := by
    rw [Nat.ceilDiv_eq_add_pred_div]
    rfl
  have hlt : [1, 2, 3, 4, 5].length ⌈/⌉ (2 : UInt32).toNat < 2 ^ 32 := by rw [hcount]; decide
  obtain ⟨hread, hcut⟩ := pages_partition (α := Nat) (β := Nat)
  refine ⟨by decide, hlt, ?_, (hread _).2 "/v2/things" [1, 2, 3, 4, 5] (by decide)⟩
  have hpages := (hcut "/v2/things" none [1, 2, 3, 4, 5] 2 (· * 10) (by decide) hlt).1
  rw [hcount] at hpages
  exact hpages

end ControlPlane.Platform.Cut
