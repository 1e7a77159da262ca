import ControlPlane.Proofs.Steps
import ControlPlane.Proofs.Text.Digits
import ControlPlane.Timestamp

/-!
# Points in time come back from their texts

Reading gives only points in time that a calendar and a clock can show (`Timestamp.isShowable_of_ofString`), and each of these is
read again from the one form in which it is written (`Timestamp.ofString_text`).
-/

namespace ControlPlane

namespace Timestamp

/-- Whether a calendar and a clock can show a point in time. -/
structure IsShowable (t : Timestamp) : Prop where
  date : t.date.isValid = true
  hour : t.hour < 24
  minute : t.minute < 60
  second : t.second ≤ 60
  nanos : t.nanos < 1000000000

/-! ## Numbers -/

/-- What is read goes on after a part that is there. -/
theorem ok_bind {α β : Type} (a : α) (f : α → Except Fault β) : ((.ok a : Except Fault α) >>= f) = f a := rfl

/-- The characters of a number with zeros before it. -/
theorem toList_padded (width n : Nat) :
    (padded width n).toList = List.replicate (width - (Nat.toDigits 10 n).length) '0' ++ Nat.toDigits 10 n := by
  rw [padded, String.toList_ofList]

theorem isDigit_of_mem_padded {width n : Nat} {c : Char} (h : c ∈ (padded width n).toList) : c.isDigit = true := by
  rw [toList_padded, List.mem_append] at h
  rcases h with h | h
  · rw [List.eq_of_mem_replicate h]
    decide
  · exact Decimal.isDigit_of_mem h

theorem ofDigits_padded (width n : Nat) : Decimal.ofDigits (padded width n).toList = n := by
  rw [toList_padded, Decimal.ofDigits_padded]

/-- A number that is less than a power of ten takes as many digits as it is given. -/
theorem length_padded {width n : Nat} (hw : 0 < width) (h : n < 10 ^ width) : (padded width n).toList.length = width := by
  have hl : (Nat.toDigits 10 n).length ≤ width := (Nat.length_toDigits_le_iff (by decide) hw).mpr h
  rw [toList_padded, List.length_append, List.length_replicate]
  omega

/-- A number has at least one digit. -/
theorem padded_ne_nil (width n : Nat) : (padded width n).toList ≠ [] := by
  rw [toList_padded]
  exact fun h => Nat.toDigits_ne_nil (List.append_eq_nil_iff.mp h).2

/-- Numbers of ten digits are read. -/
theorem le_numberLimit {n : Nat} (h : n ≤ 1000000000) : n ≤ numberLimit := by
  rw [numberLimit]
  omega

/-- Digits are read up to what follows them, where there are no more of them than are read. -/
theorem number_written {width : Nat} {ds rest : List Char} (hd : ∀ c ∈ ds, c.isDigit = true) (hne : ds ≠ [])
    (hlen : ds.length ≤ width) (hr : ds.length = width ∨ ∀ c ∈ rest.head?, c.isDigit = false)
    (hv : Decimal.ofDigits ds ≤ numberLimit) : number width (ds ++ rest) = .ok (Decimal.ofDigits ds, rest) := by
  have hrest : (rest.take (width - ds.length)).takeWhile Char.isDigit = [] := by
    rcases hr with hr | hr
    · rw [hr, Nat.sub_self]
      rfl
    · cases rest with
      | nil => rw [List.take_nil]; rfl
      | cons c rest =>
        cases width - ds.length with
        | zero => rfl
        | succ k => rw [List.take_succ_cons, List.takeWhile_cons, hr c rfl, if_neg (by decide)]
  have htake : ((ds ++ rest).take width).takeWhile Char.isDigit = ds := by
    rw [List.take_append, List.take_of_length_le hlen, List.takeWhile_append_of_pos hd, hrest, List.append_nil]
  cases hds : ds with
  | nil => exact absurd hds hne
  | cons c cs =>
    rw [hds] at htake hv
    simp only [number, htake, hv, if_true, List.drop_left]

/-- No digit is blank. -/
theorem isBlank_of_isDigit {c : Char} (h : c.isDigit = true) : Text.isBlank c = false := by
  obtain ⟨h1, h2⟩ := Decimal.digit_lt h
  have hc : c = Char.ofNat (48 + (c.toNat - 48)) := by rw [Nat.add_sub_cancel' h1, Char.ofNat_toNat]
  rw [hc]
  exact (by decide : ∀ n < 10, Text.isBlank (Char.ofNat (48 + n)) = false) _ h2

/-- No blank stands before a character that is none. -/
theorem trimStart_cons {c : Char} (h : Text.isBlank c = false) (s : List Char) : Text.trimStart (c :: s) = c :: s := by
  rw [Text.trimStart, List.dropWhile_cons, h, if_neg (by decide)]

/-- No blank stands before digits. -/
theorem trimStart_padded (width n : Nat) (rest : List Char) :
    Text.trimStart ((padded width n).toList ++ rest) = (padded width n).toList ++ rest := by
  cases h : (padded width n).toList with
  | nil => exact absurd h (padded_ne_nil width n)
  | cons c cs => exact trimStart_cons (isBlank_of_isDigit (isDigit_of_mem_padded (h ▸ List.mem_cons_self))) _

/-- A number with as many digits as are read. -/
theorem number_padded {width n : Nat} (hw : 0 < width) (h : n < 10 ^ width) (hl : n ≤ numberLimit) (rest : List Char) :
    number width ((padded width n).toList ++ rest) = .ok (n, rest) := by
  have hlen := length_padded hw h
  have hnum : number width ((padded width n).toList ++ rest) = _ :=
    number_written (fun c => isDigit_of_mem_padded) (padded_ne_nil width n) (Nat.le_of_eq hlen) (Or.inl hlen)
      (by rwa [ofDigits_padded])
  rwa [ofDigits_padded] at hnum

/-- A number of two digits in a range. -/
theorem bounded_padded {low high n : Nat} (h1 : low ≤ n) (h2 : n ≤ high) (h : high < 100) (rest : List Char) :
    bounded 2 low high ((padded 2 n).toList ++ rest) = .ok (n, rest) := by
  rw [bounded, trimStart_padded, number_padded (by decide) (by omega) (le_numberLimit (by omega))]
  simp only [bind, Except.bind, h1, h2, and_self, if_true]

/-- A mark that is there. -/
theorem mark_cons {c : Char} (h : Text.isBlank c = false) (rest : List Char) : mark c (c :: rest) = .ok rest := by
  rw [mark, trimStart_cons h]
  simp only [if_true]

/-! ## Years -/

/-- All digits of a number are read up to the mark behind them. -/
theorem number_all {n : Nat} (h : n ≤ 1000000000) (rest : List Char) :
    number ((padded 4 n).toList ++ '-' :: rest).length ((padded 4 n).toList ++ '-' :: rest) = .ok (n, '-' :: rest) := by
  have hlen : (padded 4 n).toList.length ≤ ((padded 4 n).toList ++ '-' :: rest).length := by
    rw [List.length_append]
    omega
  have hnum : number _ ((padded 4 n).toList ++ '-' :: rest) = _ :=
    number_written (fun c => isDigit_of_mem_padded) (padded_ne_nil 4 n) hlen (Or.inr fun c hc => by cases hc; decide)
      (by rw [ofDigits_padded]; exact le_numberLimit h)
  rwa [ofDigits_padded] at hnum

/-- A year of four digits. -/
theorem year_digits {n : Nat} (h : n ≤ 9999) (rest : List Char) :
    year ((padded 4 n).toList ++ '-' :: rest) = .ok ((n : Int), '-' :: rest) := by
  have hbounds : -0x80000000 ≤ (n : Int) ∧ (n : Int) < 0x80000000 := by omega
  have hnum : number 4 ((padded 4 n).toList ++ '-' :: rest) = _ :=
    number_padded (by decide) (by omega) (le_numberLimit (by omega)) ('-' :: rest)
  have hd : ∀ c ∈ (padded 4 n).toList, c.isDigit = true := fun c => isDigit_of_mem_padded
  rw [year, trimStart_padded]
  cases hl : (padded 4 n).toList with
  | nil => exact absurd hl (padded_ne_nil 4 n)
  | cons c cs =>
    rw [hl, List.cons_append] at hnum
    have hc := hd c (hl ▸ List.mem_cons_self)
    split
    · next he => cases he; exact absurd hc (by decide)
    · next he => cases he; exact absurd hc (by decide)
    · rw [List.cons_append, hnum, ok_bind]
      dsimp only
      rw [pure_bind, if_pos hbounds]

/-- A year before the first one. -/
theorem year_minus {n : Nat} (h : n ≤ 262143) (rest : List Char) :
    year ('-' :: ((padded 4 n).toList ++ '-' :: rest)) = .ok (-(n : Int), '-' :: rest) := by
  have hbounds : -0x80000000 ≤ -(n : Int) ∧ -(n : Int) < 0x80000000 := by omega
  rw [year, trimStart_cons (by decide)]
  split
  · next he =>
    cases he
    rw [number_all (by omega), ok_bind]
    dsimp only
    rw [pure_bind, if_pos hbounds]
  · next he => cases he
  · next he _ => exact absurd rfl (he _)

/-- A year of more digits. -/
theorem year_plus {n : Nat} (h : n ≤ 262142) (rest : List Char) :
    year ('+' :: ((padded 4 n).toList ++ '-' :: rest)) = .ok ((n : Int), '-' :: rest) := by
  have hbounds : -0x80000000 ≤ (n : Int) ∧ (n : Int) < 0x80000000 := by omega
  rw [year, trimStart_cons (by decide)]
  split
  · next he => cases he
  · next he =>
    cases he
    rw [number_all (by omega), ok_bind]
    dsimp only
    rw [pure_bind, if_pos hbounds]
  · next he => exact absurd rfl (he _)

/-- A year of the calendar, before its mark. -/
theorem year_written {y : Int} (h1 : -262143 ≤ y) (h2 : y ≤ 262142) (rest : List Char) :
    year ((yearText y).toList ++ '-' :: rest) = .ok (y, '-' :: rest) := by
  unfold yearText
  by_cases hy : 0 ≤ y ∧ y ≤ 9999
  · have hn : (y.toNat : Int) = y := by omega
    rw [if_pos hy, year_digits (by omega), hn]
  · by_cases hneg : y < 0
    · have hn : -(y.natAbs : Int) = y := by omega
      have hminus := year_minus (show y.natAbs ≤ 262143 by omega) rest
      rw [if_neg hy, if_pos hneg, String.toList_append]
      rwa [hn] at hminus
    · have hn : (y.natAbs : Int) = y := by omega
      have hplus := year_plus (show y.natAbs ≤ 262142 by omega) rest
      rw [if_neg hy, if_neg hneg, String.toList_append]
      rwa [hn] at hplus

/-! ## Decimals -/

/-- Decimals of some width. -/
theorem decimals_padded {width n : Nat} (hw : 0 < width) (hle : width ≤ 9) (h : n < 10 ^ width) {rest : List Char}
    (hr : ∀ c ∈ rest.head?, c.isDigit = false) :
    decimals ('.' :: ((padded width n).toList ++ rest)) = .ok (n * 10 ^ (9 - width), rest) := by
  have hlen := length_padded hw h
  have hlimit : n ≤ numberLimit :=
    le_numberLimit (Nat.le_of_lt (Nat.lt_of_lt_of_le h (Nat.le_trans (Nat.pow_le_pow_right (by decide) hle) (by decide))))
  have hnum : number 9 ((padded width n).toList ++ rest) = _ :=
    number_written (fun c => isDigit_of_mem_padded) (padded_ne_nil width n) (by omega) (Or.inr hr)
      (by rwa [ofDigits_padded])
  have hdrop : rest.dropWhile Char.isDigit = rest := by
    cases rest with
    | nil => rfl
    | cons c rest => rw [List.dropWhile_cons, hr c rfl, if_neg (by decide)]
  rw [ofDigits_padded] at hnum
  have hwidth : ((padded width n).toList ++ rest).length - rest.length = width := by
    rw [List.length_append, hlen, Nat.add_sub_cancel]
  simp only [decimals, hnum, bind, Except.bind, hwidth, hdrop, Nat.pow_eq]

/-- The decimals of a second, before the letter of the offset. -/
theorem decimals_written {n : Nat} (h : n < 1000000000) (rest : List Char) :
    decimals ((decimalsText n).toList ++ 'Z' :: rest) = .ok (n, 'Z' :: rest) := by
  have hz : ∀ c ∈ ('Z' :: rest).head?, c.isDigit = false := fun c hc => by cases hc; decide
  have hdot (width k : Nat) : ("." ++ padded width k).toList ++ 'Z' :: rest =
      '.' :: ((padded width k).toList ++ 'Z' :: rest) := by
    rw [String.toList_append]
    rfl
  unfold decimalsText
  split
  · next h0 => rw [h0]; rfl
  · split
    · rw [hdot, decimals_padded (by decide) (by decide) (by omega) hz]
      congr 2
      omega
    · split
      · rw [hdot, decimals_padded (by decide) (by decide) (by omega) hz]
        congr 2
        omega
      · rw [hdot, decimals_padded (by decide) (by decide) (by omega) hz]
        congr 2
        omega

/-! ## Points in time that can be shown -/

theorem daysInMonth_le (year : Int) (month : Nat) : daysInMonth year month ≤ 31 := by
  unfold daysInMonth
  split
  · split <;> decide
  all_goals decide

/-- What a day of the calendar is. -/
theorem isValid_iff (d : Date) :
    d.isValid = true ↔ (-262143 ≤ d.year ∧ d.year ≤ 262142) ∧ (1 ≤ d.month ∧ d.month ≤ 12) ∧
      (1 ≤ d.day ∧ d.day ≤ daysInMonth d.year d.month) := by
  simp only [Date.isValid, Bool.and_eq_true, decide_eq_true_eq, and_assoc]
  rfl

/-- Without an offset a point in time stays as it is. -/
theorem atOffset_zero {t : Timestamp} (h : t.IsShowable) : t.atOffset 0 = .ok t := by
  have hh := h.hour
  have hm := h.minute
  have h1 : ¬((t.hour * 60 + t.minute : Int) - 0 < 0) := by omega
  have h2 : ¬(24 * 60 ≤ (t.hour * 60 + t.minute : Int) - 0) := by omega
  have h3 : (((t.hour * 60 + t.minute : Int) - 0) % (24 * 60)).toNat = t.hour * 60 + t.minute := by omega
  have h4 : (t.hour * 60 + t.minute) / 60 = t.hour := by omega
  have h5 : (t.hour * 60 + t.minute) % 60 = t.minute := by omega
  simp only [atOffset, h1, h2, h3, h4, h5, h.date, if_false, if_true]

/-- A number that is read in a range lies there. -/
theorem of_bounded {width low high n : Nat} {s rest : List Char} (h : bounded width low high s = .ok (n, rest)) :
    low ≤ n ∧ n ≤ high := by
  unfold bounded at h
  cases hn : number width (Text.trimStart s) with
  | error e => rw [hn] at h; cases h
  | ok p =>
    rw [hn, ok_bind] at h
    dsimp only at h
    split at h
    · next hb =>
      cases h
      exact hb
    · cases h

/-- A number that is read has as many digits as stand before the rest, and no more than may be read. -/
theorem of_number {width n : Nat} {s rest : List Char} (h : number width s = .ok (n, rest)) :
    n < 10 ^ (s.length - rest.length) ∧ s.length - rest.length ≤ width := by
  have hd : ∀ c ∈ (s.take width).takeWhile Char.isDigit, c.isDigit = true := fun c hc => List.all_eq_true.mp List.all_takeWhile c hc
  have hle : ((s.take width).takeWhile Char.isDigit).length ≤ min width s.length :=
    Nat.le_trans (List.takeWhile_sublist _).length_le (Nat.le_of_eq List.length_take)
  unfold number at h
  dsimp only at h
  generalize (s.take width).takeWhile Char.isDigit = ds at h hd hle
  have hlen : s.length - (s.drop ds.length).length = ds.length := by
    rw [List.length_drop]
    omega
  split at h
  · cases h
  · cases h
  · split at h
    · cases h
      rw [hlen]
      exact ⟨Decimal.ofDigits_lt hd, by omega⟩
    · cases h

/-- Decimals that are read are less than a second. -/
theorem of_decimals {n : Nat} {s rest : List Char} (h : decimals s = .ok (n, rest)) : n < 1000000000 := by
  unfold decimals at h
  split at h
  · next s =>
    cases hn : number 9 s with
    | error e => rw [hn] at h; cases h
    | ok p =>
      obtain ⟨k, after⟩ := p
      obtain ⟨hlt, hle⟩ := of_number hn
      rw [hn, ok_bind] at h
      cases h
      calc k * 10 ^ (9 - (s.length - after.length))
          < 10 ^ (s.length - after.length) * 10 ^ (9 - (s.length - after.length)) :=
            Nat.mul_lt_mul_of_pos_right hlt (Nat.pow_pos (by decide))
        _ = 10 ^ 9 := by rw [← Nat.pow_add, Nat.add_sub_cancel' hle]
        _ = 1000000000 := rfl
  · cases h
    decide

/-- A point in time that is read at an offset has its minutes within a day. -/
theorem of_atOffset {t u : Timestamp} {minutes : Int} (h : t.atOffset minutes = .ok u) :
    u.date.isValid = true ∧ u.hour < 24 ∧ u.minute < 60 ∧ u.second = t.second ∧ u.nanos = t.nanos := by
  unfold atOffset at h
  dsimp only at h
  generalize (if (t.hour * 60 + t.minute : Int) - minutes < 0 then t.date.previous
    else if 24 * 60 ≤ (t.hour * 60 + t.minute : Int) - minutes then t.date.next else t.date) = date at h
  split at h
  · next hd =>
    cases h
    exact ⟨hd, by dsimp only; omega, by dsimp only; omega, rfl, rfl⟩
  · cases h

/-- Whatever text is read, a calendar and a clock can show the point in time that it gives. -/
theorem isShowable_of_ofString {s : String} {t : Timestamp} (h : ofString s = .ok t) : t.IsShowable := by
  unfold ofString ofChars at h
  obtain ⟨year, -, h⟩ := ok_of_bind h
  obtain ⟨_, -, h⟩ := ok_of_bind h
  obtain ⟨month, -, h⟩ := ok_of_bind h
  obtain ⟨_, -, h⟩ := ok_of_bind h
  obtain ⟨⟨day, rest⟩, -, h⟩ := ok_of_bind h
  dsimp only at h
  split at h
  · cases h
  split at h
  · obtain ⟨_, -, h⟩ := ok_of_bind h
    obtain ⟨hour, -, h⟩ := ok_of_bind h
    obtain ⟨_, -, h⟩ := ok_of_bind h
    obtain ⟨minute, -, h⟩ := ok_of_bind h
    obtain ⟨_, -, h⟩ := ok_of_bind h
    obtain ⟨second, hsecond, h⟩ := ok_of_bind h
    obtain ⟨nanos, hnanos, h⟩ := ok_of_bind h
    obtain ⟨minutes, -, h⟩ := ok_of_bind h
    split at h
    · cases h
    split at h
    · cases h
    obtain ⟨h1, h2, h3, h4, h5⟩ := of_atOffset h
    exact ⟨h1, h2, h3, h4 ▸ (of_bounded hsecond).2, h5 ▸ of_decimals hnanos⟩
  · cases h

/-- The characters of a point in time, part by part. -/
theorem toList_text (t : Timestamp) :
    t.text.toList = (yearText t.date.year).toList ++ '-' :: ((padded 2 t.date.month).toList ++
      '-' :: ((padded 2 t.date.day).toList ++ 'T' :: ((padded 2 t.hour).toList ++ ':' :: ((padded 2 t.minute).toList ++
        ':' :: ((padded 2 t.second).toList ++ ((decimalsText t.nanos).toList ++ ['Z'])))))) := by
  simp [text, dateText, timeText]

/-- A point in time that can be shown comes back from its text. -/
theorem ofString_text {t : Timestamp} (h : t.IsShowable) : ofString t.text = .ok t := by
  obtain ⟨⟨hy1, hy2⟩, ⟨hm1, hm2⟩, hd1, hd2⟩ := (isValid_iff t.date).mp h.date
  have hd31 := daysInMonth_le t.date.year t.date.month
  have hhour := h.hour
  have hminute := h.minute
  have hoffset : offset ['Z'] = .ok (0, []) := rfl
  have hvalid : (!t.date.isValid || decide (24 * 60 ≤ (0 : Int).natAbs)) = false := by rw [h.date]; rfl
  rw [ofString, toList_text, ofChars, year_written hy1 hy2, ok_bind]
  dsimp only
  rw [mark_cons (by decide), ok_bind, bounded_padded hm1 hm2 (by decide), ok_bind]
  dsimp only
  rw [mark_cons (by decide), ok_bind, bounded_padded hd1 (Nat.le_trans hd2 hd31) (by decide), ok_bind]
  dsimp only
  rw [if_pos (Or.inl rfl), ok_bind, bounded_padded (Nat.zero_le _) (by omega) (by decide), ok_bind]
  dsimp only
  rw [mark_cons (by decide), ok_bind, bounded_padded (Nat.zero_le _) (by omega) (by decide), ok_bind]
  dsimp only
  rw [mark_cons (by decide), ok_bind, bounded_padded (Nat.zero_le _) h.second (by decide), ok_bind]
  dsimp only
  rw [decimals_written h.nanos, ok_bind]
  dsimp only
  rw [hoffset, ok_bind]
  dsimp only
  rw [if_neg (by decide), hvalid, if_neg (by decide)]
  exact atOffset_zero h

end Timestamp

end ControlPlane
