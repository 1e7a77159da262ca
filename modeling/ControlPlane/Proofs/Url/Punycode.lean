import ControlPlane.Url.Punycode
import Mathlib.Algebra.Group.Nat.Defs
import Mathlib.Data.List.Sort
import Mathlib.Data.List.TakeWhile

/-!
# Labels come back from ASCII

A label of at most a thousand characters comes back from its ASCII form (`Punycode.decode_encode`). A number comes back from its digits
(`Punycode.readDigits_digitsOf`), and a reader that follows a writer has the same characters in place after each number
(`Punycode.Follows`). What is written are the ASCII characters of the label, a dash, and digits (`Punycode.mem_encode`).
-/

namespace ControlPlane.Url.Punycode

/-! ## Digits -/

/-- A digit comes back from its character. -/
theorem digit?_digitChar {d : Nat} (h : d < base) : digit? (digitChar d) = some d := by
  have hall : ∀ d ∈ List.range base, digit? (digitChar d) = some d := by decide +kernel
  exact hall d (List.mem_range.mpr h)

/-- Digits are small letters and decimal digits. -/
theorem digitChar_plain {d : Nat} (h : d < base) :
    (digitChar d).toNat < 0x80 ∧ (digitChar d).toLower = digitChar d ∧ digitChar d ≠ '-' ∧ digitChar d ≠ '.' := by
  have hall : ∀ d ∈ List.range base,
      (digitChar d).toNat < 0x80 ∧ (digitChar d).toLower = digitChar d ∧ digitChar d ≠ '-' ∧ digitChar d ≠ '.' := by decide +kernel
  exact hall d (List.mem_range.mpr h)

/-- A number is written in digits. -/
theorem mem_digitsOf {q position bias : Nat} {c : Char} (h : c ∈ digitsOf q position bias) : ∃ d < base, c = digitChar d := by
  induction q using Nat.strongRecOn generalizing position with
  | ind q ih =>
    have h1 := threshold_pos position bias
    have h2 := threshold_le position bias
    have hb : base = 36 := rfl
    rw [digitsOf] at h
    split at h
    · exact ⟨q, by omega, List.mem_singleton.mp h⟩
    · rcases List.mem_cons.mp h with rfl | h
      · have hmod := Nat.mod_lt (q - threshold position bias) (show 0 < base - threshold position bias by omega)
        exact ⟨_, by omega, rfl⟩
      · exact ih _ (Nat.lt_of_le_of_lt (Nat.div_le_self _ _) (by omega)) h

/-! ## Numbers -/

theorem adaptLoop_le (k : Nat) {delta : Nat} (h : delta < 456 * 35 ^ k) (position : Nat) :
    adaptLoop delta position ≤ position + base * k + 35 := by
  have hlast (delta : Nat) : base * delta / (delta + 38) ≤ 35 :=
    Nat.le_of_lt_succ ((Nat.div_lt_iff_lt_mul (by omega)).mpr (by rw [base]; omega))
  induction k generalizing delta position with
  | zero =>
    rw [adaptLoop, if_neg (by omega)]
    exact Nat.add_le_add_left (hlast delta) position
  | succ k ih =>
    rw [adaptLoop]
    split
    · have hless : delta / 35 < 456 * 35 ^ k := by
        rw [Nat.pow_succ] at h
        omega
      have hstep := ih hless (position + base)
      rw [Nat.mul_succ]
      omega
    · have hend := hlast delta
      omega

/-- After a distance of 32 bits the bias is less than six positions. -/
theorem adapt_le {delta : Nat} (h : delta < UInt32.size) (count : Nat) (first : Bool) : adapt delta count first ≤ 215 := by
  have hsize : UInt32.size = 4294967296 := rfl
  have hhalf : (if first then delta / 700 else delta / 2) ≤ delta / 2 := by split <;> omega
  have hshare := Nat.div_le_self (if first then delta / 700 else delta / 2) count
  exact adaptLoop_le 5 (by omega) 0

/-- Puts a character in the place that a number leads to. -/
def Reading.put (r : Reading) (number : Nat) : Option Reading :=
  let count := r.placed.length + 1
  let total := r.place + number
  let code := r.code + total / count
  let place := total % count
  if greatestCode < code then none
  else
    some
      { placed := r.placed.take place ++ code :: r.placed.drop place
        code
        place := place + 1
        bias := adapt number count (r.place = 0)
        number := 0
        weight := 1
        position := base }

/-- Adds a digit to a number that goes on. -/
def Reading.add (r : Reading) (d : Nat) : Reading :=
  { r with
    number := r.number + d * r.weight
    weight := r.weight * (base - threshold r.position r.bias)
    position := r.position + base }

theorem readDigits_cons {r : Reading} {d : Nat} (hd : d < base) (rest : List Char) :
    readDigits r (digitChar d :: rest) = (readDigit r d).bind (readDigits · rest) := by
  rw [readDigits, digit?_digitChar hd]
  rfl

section

variable {r : Reading} {d : Nat} (htotal : r.place + (r.number + d * r.weight) < UInt32.size)

include htotal

/-- The last digit of a number puts a character in its place. -/
theorem readDigit_last (hd : d < threshold r.position r.bias) : readDigit r d = r.put (r.number + d * r.weight) := by
  simp only [readDigit, if_neg (Nat.not_le.mpr htotal), if_neg (Nat.not_le.mpr hd)]
  rfl

/-- Any other digit is added to the number. -/
theorem readDigit_more (hd : threshold r.position r.bias ≤ d) (hweight : (r.add d).weight < UInt32.size) :
    readDigit r d = some (r.add d) := by
  simp only [readDigit, if_neg (Nat.not_le.mpr htotal), if_pos hd]
  exact if_neg (Nat.not_le.mpr hweight)

end

/-- The weight of a digit that is not the last fits 32 bits. It grows by 35 at most while the position is small, and by 10, less than
the threshold, from the seventh position on. -/
theorem weight_lt {q position bias weight i : Nat} (hp : position = base * (i + 1)) (hw : weight ≤ 35 ^ i) (hb : bias ≤ 215)
    (hq : threshold position bias ≤ q) (htotal : q * weight < UInt32.size) :
    weight * (base - threshold position bias) < UInt32.size := by
  have h36 : base = 36 := rfl
  have hpos := threshold_pos position bias
  rcases Nat.lt_or_ge i 6 with hi | hi
  · calc weight * (base - threshold position bias) ≤ 35 ^ 5 * 35 :=
          Nat.mul_le_mul (Nat.le_trans hw (Nat.pow_le_pow_right (by decide) (by omega))) (by omega)
      _ < UInt32.size := by decide
  · have hlate : threshold position bias = 26 := by
      rw [hp, h36, threshold]
      omega
    calc weight * (base - threshold position bias) ≤ weight * q := Nat.mul_le_mul_left weight (by omega)
      _ = q * weight := Nat.mul_comm weight q
      _ < UInt32.size := htotal

/-- A number is its first digit and what the digits behind it stand for. -/
theorem digit_add_rest {q t : Nat} (ht : t ≤ q) (weight : Nat) :
    (t + (q - t) % (base - t)) * weight + (q - t) / (base - t) * (weight * (base - t)) = q * weight := by
  have hdiv := Nat.mod_add_div' (q - t) (base - t)
  calc (t + (q - t) % (base - t)) * weight + (q - t) / (base - t) * (weight * (base - t))
      = (t + (q - t) % (base - t) + (q - t) / (base - t) * (base - t)) * weight := by
        rw [Nat.mul_comm weight, ← Nat.mul_assoc, ← Nat.add_mul]
    _ = q * weight := by rw [Nat.add_assoc, hdiv, Nat.add_sub_cancel' ht]

/-- A number comes back from its digits, whatever stands behind them. -/
theorem readDigits_digitsOf (q : Nat) (rest : List Char) {r : Reading} {i : Nat} (hp : r.position = base * (i + 1))
    (hw : r.weight ≤ 35 ^ i) (hb : r.bias ≤ 215) (htotal : r.place + (r.number + q * r.weight) < UInt32.size) :
    readDigits r (digitsOf q r.position r.bias ++ rest) = (r.put (r.number + q * r.weight)).bind (readDigits · rest) := by
  -- by induction on the number, with what has been read of it and the position in `r`
  induction q using Nat.strongRecOn generalizing r i with
  | ind q ih =>
    have h36 : base = 36 := rfl
    have h1 := threshold_pos r.position r.bias
    have h2 := threshold_le r.position r.bias
    rw [digitsOf]
    split
    · next hlast =>
      rw [List.cons_append, List.nil_append, readDigits_cons (by omega), readDigit_last htotal hlast]
    · next hmore =>
      have hmod := Nat.mod_lt (q - threshold r.position r.bias) (show 0 < base - threshold r.position r.bias by omega)
      have hless := Nat.div_le_self (q - threshold r.position r.bias) (base - threshold r.position r.bias)
      have hsum := digit_add_rest (Nat.le_of_not_lt hmore) r.weight
      have hweight := weight_lt (q := q) hp hw hb (by omega) (by omega)
      generalize (q - threshold r.position r.bias) / (base - threshold r.position r.bias) = q' at hsum hless ⊢
      generalize (q - threshold r.position r.bias) % (base - threshold r.position r.bias) = m at hsum hmod ⊢
      generalize hd : threshold r.position r.bias + m = d at hsum ⊢
      have hread : readDigit r d = some (r.add d) := readDigit_more (by omega) (by omega) hweight
      have hrest : (r.add d).number + q' * (r.add d).weight = r.number + q * r.weight := by
        rw [← hsum, ← Nat.add_assoc]
        rfl
      have hnext := ih q' (by omega) (r := r.add d) (i := i + 1) (congrArg (· + base) hp)
        (by rw [Nat.pow_succ]; exact Nat.mul_le_mul hw (by omega)) hb (by rw [hrest]; exact htotal)
      rw [List.cons_append, readDigits_cons (by omega), hread, Option.bind_some, ← hrest]
      exact hnext

/-! ## Characters in their places -/

/-- Whether a reader that began at `start`, behind the text `before`, has read what a writer has written since. Both have the same
characters in place, and the writer has gone from where the reader put the last one to the place `place` of the code `code`. -/
structure Follows (start : Reading) (before : List Char) (basics : Nat) (w : Writing) (r : Reading) (placed : List Nat)
    (code place : Nat) : Prop where
  read : ∃ digits, w.written = before ++ digits ∧ (∀ c ∈ digits, ∃ d < base, c = digitChar d) ∧
    ∀ rest, readDigits start (digits ++ rest) = readDigits r rest
  inPlace : r.placed = placed
  count : placed.length = w.count
  bias : r.bias = w.bias
  small : w.bias ≤ 215
  between : r.number = 0 ∧ r.weight = 1 ∧ r.position = base
  first : r.place = 0 ↔ w.count = basics
  least : basics ≤ w.count
  behind : r.code ≤ code
  distance : r.place + w.delta = (code - r.code) * (w.count + 1) + place

variable {start : Reading} {before : List Char} {basics : Nat} {w : Writing} {r : Reading} {placed : List Nat} {code place : Nat}

/-- The number that leads to a character fits 32 bits. -/
theorem Follows.total_lt (h : Follows start before basics w r placed code place) (hcode : code ≤ greatestCode)
    (hcount : placed.length ≤ 1000) (hplace : place ≤ placed.length) : r.place + w.delta < UInt32.size := by
  have hg : greatestCode = 1114111 := rfl
  have hsize : UInt32.size = 4294967296 := rfl
  have hsame := h.count
  have hdistance := h.distance
  have hmul : (code - r.code) * (w.count + 1) ≤ 1114111 * 1001 := Nat.mul_le_mul (by omega) (by omega)
  omega

/-- The writer goes on to a later place. -/
theorem Follows.goesOn (h : Follows start before basics w r placed code place) {code' place' : Nat} (hle : code ≤ code') {steps : Nat}
    (hsteps : (code - r.code) * (w.count + 1) + place + steps = (code' - r.code) * (w.count + 1) + place') :
    Follows start before basics { w with delta := w.delta + steps } r placed code' place' where
  read := h.read
  inPlace := h.inPlace
  count := h.count
  bias := h.bias
  small := h.small
  between := h.between
  first := h.first
  least := h.least
  behind := Nat.le_trans h.behind hle
  distance := by
    rw [← hsteps, ← h.distance]
    exact (Nat.add_assoc _ _ _).symm

/-- The number that the writer has gone by leads the reader to the same place. -/
theorem Follows.put_eq (h : Follows start before basics w r placed code place) (hcode : code ≤ greatestCode)
    (hplace : place ≤ placed.length) :
    r.put w.delta = some ⟨placed.take place ++ code :: placed.drop place, code, place + 1,
      adapt w.delta (w.count + 1) (w.count = basics), 0, 1, base⟩ := by
  have hless : place < w.count + 1 := by
    have hsame := h.count
    omega
  have hdiv : ((code - r.code) * (w.count + 1) + place) / (w.count + 1) = code - r.code := by
    rw [Nat.mul_comm, Nat.mul_add_div (by omega), Nat.div_eq_of_lt hless, Nat.add_zero]
  have hmod : ((code - r.code) * (w.count + 1) + place) % (w.count + 1) = place := by
    rw [Nat.mul_comm, Nat.mul_add_mod, Nat.mod_eq_of_lt hless]
  simp only [Reading.put, h.inPlace, h.count, h.distance, hdiv, hmod, Nat.add_sub_cancel' h.behind, if_neg (Nat.not_lt.mpr hcode),
    decide_eq_decide.mpr h.first]

/-- When the writer writes how far it has gone, the reader puts the character in its place. -/
theorem Follows.put (h : Follows start before basics w r placed code place) (hcode : code ≤ greatestCode)
    (hcount : placed.length ≤ 1000) (hplace : place ≤ placed.length) :
    ∃ r', Follows start before basics
      { written := w.written ++ digitsOf w.delta base w.bias
        count := w.count + 1
        bias := adapt w.delta (w.count + 1) (w.count = basics)
        delta := 0 } r' (placed.take place ++ code :: placed.drop place) code (place + 1) := by
  obtain ⟨hnumber, hweight, hposition⟩ := h.between
  have htotal := h.total_lt hcode hcount hplace
  obtain ⟨digits, hwritten, hdigits, hread⟩ := h.read
  refine ⟨⟨placed.take place ++ code :: placed.drop place, code, place + 1,
      adapt w.delta (w.count + 1) (w.count = basics), 0, 1, base⟩,
    { read := ⟨digits ++ digitsOf w.delta base w.bias, ?_, fun c hc => ?_, fun rest => ?_⟩
      inPlace := rfl
      count := ?_
      bias := rfl
      small := adapt_le (Nat.lt_of_le_of_lt (Nat.le_add_left _ _) htotal) _ _
      between := ⟨rfl, rfl, rfl⟩
      first := ?_
      least := Nat.le_succ_of_le h.least
      behind := Nat.le_refl _
      distance := ?_ }⟩
  · rw [hwritten, List.append_assoc]
  · rcases List.mem_append.mp hc with hc | hc
    · exact hdigits c hc
    · exact mem_digitsOf hc
  · have hnumbered := readDigits_digitsOf w.delta rest (r := r) (i := 0) hposition (by omega) (h.bias ▸ h.small)
      (by rw [hnumber, hweight]; omega)
    rw [hposition, h.bias, hnumber, hweight, Nat.zero_add, Nat.mul_one, h.put_eq hcode hplace] at hnumbered
    rw [List.append_assoc, hread, hnumbered, Option.bind_some]
  · show _ = w.count + 1
    rw [List.length_append, List.length_cons, List.length_take, List.length_drop, ← h.count]
    omega
  · have hmore : w.count + 1 ≠ basics := Nat.ne_of_gt (Nat.lt_succ_of_le h.least)
    exact ⟨fun hzero => absurd hzero (Nat.succ_ne_zero place), fun hsame => absurd hsame hmore⟩
  · rw [Nat.sub_self, Nat.zero_mul, Nat.zero_add, Nat.add_zero]

theorem writeCode_cons (c : Nat) (rest : List Nat) (basics : Nat) (w : Writing) (code : Nat) :
    writeCode (c :: rest) basics w code = writeCode rest basics
      (if c < code then { w with delta := w.delta + 1 }
      else if c = code then
        { written := w.written ++ digitsOf w.delta base w.bias
          count := w.count + 1
          bias := adapt w.delta (w.count + 1) (w.count = basics)
          delta := 0 }
      else w) code := rfl

theorem filter_concat_of_le {c : Nat} (h : c ≤ code) (done : List Nat) :
    (done ++ [c]).filter (· ≤ code) = done.filter (· ≤ code) ++ [c] := by
  rw [List.filter_append, List.filter_cons_of_pos (by simpa using h), List.filter_nil]

theorem filter_concat_of_lt {c : Nat} (h : code < c) (done : List Nat) : (done ++ [c]).filter (· ≤ code) = done.filter (· ≤ code) := by
  rw [List.filter_append, List.filter_cons_of_neg (by simpa using h), List.filter_nil, List.append_nil]

/-- The writer passes along the characters of a label. Those before the place are in place if their codes are not greater than the one
that is put in place, and those behind it if theirs are smaller. -/
theorem Follows.writeCode (hcode : code ≤ greatestCode) {done rest : List Nat} (hlength : done.length + rest.length ≤ 1000)
    (h : Follows start before basics w r (done.filter (· ≤ code) ++ rest.filter (· < code)) code (done.filter (· ≤ code)).length) :
    ∃ r', Follows start before basics (Punycode.writeCode rest basics w code) r' ((done ++ rest).filter (· ≤ code)) code
      ((done ++ rest).filter (· ≤ code)).length := by
  induction rest generalizing done w r with
  | nil =>
    refine ⟨r, ?_⟩
    rwa [List.filter_nil, List.append_nil, ← List.append_nil done] at h
  | cons c rest ih =>
    have hdone : done ++ c :: rest = (done ++ [c]) ++ rest := by rw [List.append_assoc, List.singleton_append]
    have hlength' : (done ++ [c]).length + rest.length ≤ 1000 := by
      rw [List.length_append, List.length_singleton]
      rw [List.length_cons] at hlength
      omega
    rw [hdone]
    rcases Nat.lt_trichotomy c code with hc | rfl | hc
    · -- one that is in place already is passed
      have hkept := filter_concat_of_le (Nat.le_of_lt hc) done
      have hplaced : done.filter (· ≤ code) ++ (c :: rest).filter (· < code) =
          (done ++ [c]).filter (· ≤ code) ++ rest.filter (· < code) := by
        rw [hkept, List.filter_cons_of_pos (by simpa using hc), List.append_assoc, List.singleton_append]
      rw [writeCode_cons, if_pos hc]
      refine ih hlength' (r := r) ?_
      rw [hplaced] at h
      rw [hkept, List.length_append, List.length_singleton, ← hkept]
      exact h.goesOn (Nat.le_refl code) (Nat.add_assoc _ _ _)
    · -- one of this code is put in place
      have hkept := filter_concat_of_le (Nat.le_refl c) done
      have hplaced : (c :: rest).filter (· < c) = rest.filter (· < c) := List.filter_cons_of_neg (by simp)
      rw [hplaced] at h
      obtain ⟨r', h'⟩ := h.put hcode (by
        have h1 := List.length_filter_le (· ≤ c) done
        have h2 := List.length_filter_le (· < c) rest
        rw [List.length_append]
        rw [List.length_cons] at hlength
        omega) (by rw [List.length_append]; omega)
      rw [List.take_left, List.drop_left] at h'
      rw [writeCode_cons, if_neg (Nat.lt_irrefl c), if_pos rfl]
      refine ih hlength' (r := r') ?_
      rw [hkept, List.length_append, List.length_singleton, List.append_assoc, List.singleton_append]
      exact h'
    · -- one of a greater code is still to come
      have hplaced : (c :: rest).filter (· < code) = rest.filter (· < code) :=
        List.filter_cons_of_neg (by simpa using Nat.le_of_lt hc)
      rw [writeCode_cons, if_neg (Nat.lt_asymm hc), if_neg (Nat.ne_of_gt hc)]
      refine ih hlength' (r := r) ?_
      rw [filter_concat_of_lt hc]
      rwa [hplaced] at h

/-- The writer passes along the codes of a label from the least on. -/
theorem Follows.writeCodes {codes others : List Nat} (hlength : codes.length ≤ 1000) (hcodes : ∀ n ∈ codes, n ≤ greatestCode)
    (hsorted : others.Pairwise (· < ·)) {last : Nat} (hothers : ∀ n, n ∈ others ↔ n ∈ codes ∧ last ≤ n)
    (h : Follows start before basics w r (codes.filter (· < last)) last 0) :
    ∃ r' last', Follows start before basics (Punycode.writeCodes codes basics last others w) r' codes last' 0 := by
  induction others generalizing last w r with
  | nil =>
    have hall : codes.filter (· < last) = codes := List.filter_eq_self.mpr fun n hn => by
      have hless : ¬last ≤ n := fun hle => List.not_mem_nil ((hothers n).mpr ⟨hn, hle⟩)
      simpa using hless
    exact ⟨r, last, hall ▸ h⟩
  | cons code rest ih =>
    obtain ⟨hfirst, hrest⟩ := List.pairwise_cons.mp hsorted
    obtain ⟨hmem, hlast⟩ := (hothers code).mp List.mem_cons_self
    -- no code lies between the last one and this one
    have hnext (n : Nat) (hn : n ∈ codes) : last ≤ n ↔ code ≤ n := by
      refine ⟨fun hle => ?_, Nat.le_trans hlast⟩
      rcases List.mem_cons.mp ((hothers n).mpr ⟨hn, hle⟩) with rfl | hr
      · exact Nat.le_refl n
      · exact Nat.le_of_lt (hfirst n hr)
    have hplaced : codes.filter (· < last) = ([] : List Nat).filter (· ≤ code) ++ codes.filter (· < code) := by
      refine List.filter_congr fun n hn => decide_eq_decide.mpr ?_
      rw [← Nat.not_le, ← Nat.not_le, hnext n hn]
    have hreach : Follows start before basics { w with delta := w.delta + (code - last) * (w.count + 1) } r
        (codes.filter (· < last)) code 0 := by
      refine h.goesOn hlast ?_
      rw [Nat.add_zero, Nat.add_zero, ← Nat.add_mul, Nat.add_comm, Nat.sub_add_sub_cancel hlast h.behind]
      rfl
    rw [hplaced] at hreach
    obtain ⟨r₁, hpassed⟩ := hreach.writeCode (hcodes code hmem) (by rwa [List.length_nil, Nat.zero_add])
    rw [List.nil_append] at hpassed
    rw [Punycode.writeCodes]
    generalize Punycode.writeCode codes basics _ code = w₁ at hpassed ⊢
    have hsucc : codes.filter (· ≤ code) = codes.filter (· < code + 1) :=
      List.filter_congr fun n _ => decide_eq_decide.mpr Nat.lt_succ_iff.symm
    have hpast : Follows start before basics { w₁ with delta := w₁.delta + 1 } r₁ (codes.filter (· ≤ code)) (code + 1) 0 := by
      refine hpassed.goesOn (Nat.le_succ code) ?_
      rw [hpassed.count, Nat.succ_sub hpassed.behind, Nat.succ_mul, Nat.add_assoc]
      rfl
    rw [hsucc] at hpast
    refine ih hrest (fun n => ⟨fun hn => ?_, fun ⟨hn, hle⟩ => ?_⟩) hpast
    · exact ⟨((hothers n).mp (List.mem_cons_of_mem code hn)).1, hfirst n hn⟩
    · rcases List.mem_cons.mp ((hothers n).mpr ⟨hn, Nat.le_trans hlast (Nat.le_of_succ_le hle)⟩) with rfl | hr
      · exact absurd hle (Nat.not_succ_le_self n)
      · exact hr

/-! ## The whole label -/

/-- Without its repetitions a list has none. -/
theorem nodup_eraseDups (codes : List Nat) : codes.eraseDups.Nodup := by
  cases codes with
  | nil => exact List.nodup_nil
  | cons code rest =>
    rw [List.eraseDups_cons, List.nodup_cons]
    refine ⟨fun hmem => ?_, nodup_eraseDups _⟩
    simpa using (List.mem_filter.mp (List.mem_eraseDups.mp hmem)).2
termination_by codes.length
decreasing_by exact Nat.lt_succ_of_le (List.length_filter_le _ _)

/-- The codes beyond ASCII of a label, each once and in their order. -/
theorem others_sorted (codes : List Nat) :
    ((codes.filter (initialCode ≤ ·)).eraseDups.mergeSort).Pairwise (· < ·) ∧
      ∀ n, n ∈ (codes.filter (initialCode ≤ ·)).eraseDups.mergeSort ↔ n ∈ codes ∧ initialCode ≤ n := by
  have hle : ((codes.filter (initialCode ≤ ·)).eraseDups.mergeSort).Pairwise (· ≤ ·) := List.pairwise_mergeSort' _ _
  have hne : ((codes.filter (initialCode ≤ ·)).eraseDups.mergeSort).Nodup :=
    (List.mergeSort_perm _ _).nodup_iff.mpr (nodup_eraseDups _)
  refine ⟨hle.imp₂ (fun _ _ => Nat.lt_of_le_of_ne) hne, fun n => ?_⟩
  rw [List.mem_mergeSort, List.mem_eraseDups, List.mem_filter, decide_eq_true_eq]

/-- What stands before the digits of a label. -/
def ahead (label : List Char) : List Char :=
  let basics := label.filter (·.toNat < initialCode)
  if basics.isEmpty then [] else basics ++ ['-']

/-- The reader before the digits of a label. -/
def atDigits (label : List Char) : Reading :=
  ⟨(label.filter (·.toNat < initialCode)).map Char.toNat, initialCode, 0, initialBias, 0, 1, base⟩

/-- The codes of characters are those of characters. -/
theorem code_valid {label : List Char} : ∀ n ∈ label.map Char.toNat, n.isValidChar ∧ n ≤ greatestCode := by
  intro n hn
  obtain ⟨c, -, rfl⟩ := List.mem_map.mp hn
  refine ⟨c.valid, ?_⟩
  rcases c.valid with h | h
  · exact Nat.le_of_lt (Nat.lt_trans h (by decide))
  · exact Nat.le_of_lt_succ h.2

/-- The ASCII characters of a label are those whose codes are in place at the start. -/
theorem codes_at_start (label : List Char) :
    (label.map Char.toNat).filter (· < initialCode) = (label.filter (·.toNat < initialCode)).map Char.toNat :=
  List.filter_map

theorem follows_start (label : List Char) :
    Follows (atDigits label) (ahead label) (label.filter (·.toNat < initialCode)).length
      ⟨ahead label, (label.filter (·.toNat < initialCode)).length, initialBias, 0⟩ (atDigits label)
      ((label.map Char.toNat).filter (· < initialCode)) initialCode 0 where
  read := ⟨[], (List.append_nil _).symm, fun _ hc => absurd hc List.not_mem_nil, fun _ => rfl⟩
  inPlace := (codes_at_start label).symm
  count := by rw [codes_at_start, List.length_map]
  bias := rfl
  small := show initialBias ≤ 215 by decide
  between := ⟨rfl, rfl, rfl⟩
  first := ⟨fun _ => rfl, fun _ => rfl⟩
  least := Nat.le_refl _
  behind := Nat.le_refl _
  distance := by rw [atDigits, Nat.sub_self, Nat.zero_mul]

/-- Behind its ASCII characters a label is written in digits, from which a reader puts the other characters in their places. -/
theorem encode_cases {label : List Char} (hl : label.length ≤ 1000) :
    ∃ digits, encode label = ahead label ++ digits ∧ (∀ c ∈ digits, ∃ d < base, c = digitChar d) ∧
      ∃ r, readDigits (atDigits label) digits = some r ∧ r.weight = 1 ∧ r.position = base ∧ r.placed = label.map Char.toNat := by
  obtain ⟨hsorted, hothers⟩ := others_sorted (label.map Char.toNat)
  obtain ⟨r, last, hend⟩ := (follows_start label).writeCodes (by rwa [List.length_map]) (fun n hn => (code_valid n hn).2) hsorted
    hothers
  obtain ⟨digits, hwritten, hdigits, hread⟩ := hend.read
  have hall := hread []
  rw [List.append_nil] at hall
  exact ⟨digits, hwritten, hdigits, r, hall, hend.between.2.1, hend.between.2.2, hend.inPlace⟩

/-- The characters of an ASCII form are those of the label in ASCII, a dash, and digits. -/
theorem mem_encode {label : List Char} (hl : label.length ≤ 1000) {c : Char} (hc : c ∈ encode label) :
    c ∈ label.filter (·.toNat < initialCode) ∨ c = '-' ∨ ∃ d < base, c = digitChar d := by
  obtain ⟨digits, hwritten, hdigits, -⟩ := encode_cases hl
  rw [hwritten, List.mem_append] at hc
  rcases hc with hc | hc
  · unfold ahead at hc
    dsimp only at hc
    split at hc
    · exact absurd hc List.not_mem_nil
    · rcases List.mem_append.mp hc with hc | hc
      · exact Or.inl hc
      · exact Or.inr (Or.inl (List.mem_singleton.mp hc))
  · exact Or.inr (Or.inr (hdigits c hc))

/-- The last dash of an ASCII form stands before the digits. -/
theorem decode_ahead {label digits : List Char} (hdigits : ∀ c ∈ digits, c ≠ '-') :
    decode (ahead label ++ digits) = (readDigits (atDigits label) digits).bind fun r =>
      if r.weight = 1 ∧ r.position = base ∧ r.placed.all fun n => n.isValidChar then some (r.placed.map Char.ofNat) else none := by
  have hdashless (rest : List Char) : (digits.reverse ++ '-' :: rest).takeWhile (· != '-') = digits.reverse := by
    rw [List.takeWhile_append_of_pos fun c hc => by simpa using hdigits c (List.mem_reverse.mp hc),
      List.takeWhile_cons_of_neg (by simp), List.append_nil]
  have hall : digits.reverse.takeWhile (· != '-') = digits.reverse :=
    List.takeWhile_eq_self_iff.mpr fun c hc => by simpa using hdigits c (List.mem_reverse.mp hc)
  cases hb : label.filter (·.toNat < initialCode) with
  | nil =>
    rw [decode]
    simp only [ahead, hb, List.isEmpty_nil, if_true, List.nil_append, hall, List.reverse_reverse, Nat.sub_self, Nat.zero_sub,
      List.take_zero, atDigits]
    rfl
  | cons c basics =>
    have hwhole : ahead label ++ digits = (c :: basics) ++ '-' :: digits := by
      simp only [ahead, hb, List.isEmpty_cons, Bool.false_eq_true, if_false, List.append_assoc, List.singleton_append]
    have hbehind : ((c :: basics) ++ '-' :: digits).reverse.takeWhile (· != '-') = digits.reverse := by
      rw [List.reverse_append, List.reverse_cons, List.append_assoc, List.singleton_append]
      exact hdashless _
    have hcount : ((c :: basics) ++ '-' :: digits).length - digits.length - 1 = (c :: basics).length := by
      simp only [List.length_append, List.length_cons]
      omega
    rw [decode, hwhole, hbehind, List.reverse_reverse, hcount, List.take_left]
    simp only [List.isEmpty_cons, Bool.false_eq_true, if_false, atDigits, hb]
    rfl

/-- A label of at most a thousand characters comes back from its ASCII form. -/
theorem decode_encode {label : List Char} (hl : label.length ≤ 1000) : decode (encode label) = some label := by
  obtain ⟨digits, hwritten, hdigits, r, hread, hweight, hposition, hplaced⟩ := encode_cases hl
  have hdashless : ∀ c ∈ digits, c ≠ '-' := by
    intro c hc
    obtain ⟨d, hd, rfl⟩ := hdigits c hc
    exact (digitChar_plain hd).2.2.1
  have hvalid : (label.map Char.toNat).all (fun n => n.isValidChar) = true :=
    List.all_eq_true.mpr fun n hn => decide_eq_true (code_valid n hn).1
  have hback : (label.map Char.toNat).map Char.ofNat = label := by
    rw [List.map_map]
    exact (List.map_congr_left fun c _ => Char.ofNat_toNat c).trans (List.map_id _)
  rw [hwritten, decode_ahead hdashless, hread, Option.bind_some, hplaced, if_pos ⟨hweight, hposition, hvalid⟩, hback]

end ControlPlane.Url.Punycode
