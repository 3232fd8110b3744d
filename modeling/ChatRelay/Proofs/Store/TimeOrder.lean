import ChatRelay.Proofs.Text.Utf8
import ChatRelay.Proofs.Time.Order
import ChatRelay.Proofs.Time.LeapSecond

/-!
# The order of stored points in time

The store sorts points in time by the bytes of their texts. Every field has a
fixed width, so that this is the order of the fields, and that is the order in
time (`storedTime_le_iff`).
-/

namespace ChatRelay.Store

open Time (Instant Stamp)

theorem bytesLe_cons_self (b : UInt8) (bs bs' : List UInt8) :
    Cell.bytesLe (b :: bs) (b :: bs') = Cell.bytesLe bs bs' := by
  simp [Cell.bytesLe]

theorem bytesLe_digitChar {m n : Nat} (hm : m < 10) (hn : n < 10) (bs bs' : List UInt8) :
    Cell.bytesLe (String.utf8EncodeChar (Nat.digitChar m) ++ bs)
        (String.utf8EncodeChar (Nat.digitChar n) ++ bs') = true ↔
      m < n ∨ m = n ∧ Cell.bytesLe bs bs' = true := by
  have hbyte : ∀ k < 10, String.utf8EncodeChar (Nat.digitChar k) = [UInt8.ofNat (48 + k)] := by
    intro k hk
    have htoNat := Nat.toNat_digitChar_of_lt_ten hk
    rw [Text.utf8EncodeChar_of_lt (by omega), htoNat]
  have hlt : UInt8.ofNat (48 + m) < UInt8.ofNat (48 + n) ↔ m < n := by
    rw [UInt8.lt_iff_toNat_lt]
    simp
    omega
  have heq : UInt8.ofNat (48 + m) = UInt8.ofNat (48 + n) ↔ m = n := by
    rw [← UInt8.toNat_inj]
    simp
    omega
  rw [hbyte m hm, hbyte n hn, List.singleton_append, List.singleton_append, Cell.bytesLe]
  rw [Bool.or_eq_true, Bool.and_eq_true, decide_eq_true_iff, beq_iff_eq, hlt, heq]

/-- Numbers of a fixed width are in the order of their texts. -/
theorem bytesLe_paddedDigits {width m n : Nat} (hwidth : 0 < width) (hm : m < Nat.pow 10 width)
    (hn : n < Nat.pow 10 width) (bs bs' : List UInt8) :
    Cell.bytesLe ((paddedDigits width m).flatMap String.utf8EncodeChar ++ bs)
        ((paddedDigits width n).flatMap String.utf8EncodeChar ++ bs') = true ↔
      m < n ∨ m = n ∧ Cell.bytesLe bs bs' = true := by
  obtain ⟨width, rfl⟩ := Nat.exists_eq_add_of_le' hwidth
  induction width generalizing m n bs bs' with
  | zero =>
    rw [Nat.zero_add, paddedDigits_one hm, paddedDigits_one hn]
    simpa using bytesLe_digitChar hm hn bs bs'
  | succ width ih =>
    have hpow : Nat.pow 10 (width + 1 + 1) = 10 * Nat.pow 10 (width + 1) := Nat.mul_comm _ _
    rw [hpow] at hm hn
    have hm' : m / 10 < Nat.pow 10 (width + 1) := Nat.div_lt_of_lt_mul hm
    have hn' : n / 10 < Nat.pow 10 (width + 1) := Nat.div_lt_of_lt_mul hn
    have hdigits := fun k => paddedDigits_succ (Nat.succ_pos width) k
    rw [hdigits m, hdigits n, List.flatMap_append, List.flatMap_append, List.append_assoc,
      List.append_assoc, ih _ _ (Nat.succ_pos width) hm' hn', List.flatMap_singleton,
      List.flatMap_singleton, bytesLe_digitChar (by omega) (by omega)]
    have hlt : m < n ↔ m / 10 < n / 10 ∨ m / 10 = n / 10 ∧ m % 10 < n % 10 := by omega
    have heq : m = n ↔ m / 10 = n / 10 ∧ m % 10 = n % 10 := by omega
    rw [hlt, heq]
    simp only [and_or_left, or_assoc, and_assoc]

/-- A field of a fixed width, and the character behind it. -/
theorem bytesLe_field {width m n : Nat} (hwidth : 0 < width) (hm : m < Nat.pow 10 width)
    (hn : n < Nat.pow 10 width) {c : Char} (hc : c.toNat < 128) (cs cs' : List Char) :
    Cell.bytesLe ((paddedDigits width m ++ c :: cs).flatMap String.utf8EncodeChar)
        ((paddedDigits width n ++ c :: cs').flatMap String.utf8EncodeChar) = true ↔
      m < n ∨ m = n ∧ Cell.bytesLe (cs.flatMap String.utf8EncodeChar)
        (cs'.flatMap String.utf8EncodeChar) = true := by
  rw [List.flatMap_append, List.flatMap_append, bytesLe_paddedDigits hwidth hm hn,
    List.flatMap_cons, List.flatMap_cons, Text.utf8EncodeChar_of_lt hc, List.singleton_append,
    List.singleton_append, bytesLe_cons_self]

/-- The order of the fields of points in time: the first field that differs decides. -/
def FieldsLe (s s' : Stamp) : Prop :=
  s.year < s'.year ∨ s.year = s'.year ∧ (s.month < s'.month ∨ s.month = s'.month ∧
    (s.day < s'.day ∨ s.day = s'.day ∧ (s.hour < s'.hour ∨ s.hour = s'.hour ∧
      (s.minute < s'.minute ∨ s.minute = s'.minute ∧ (s.second < s'.second ∨ s.second = s'.second ∧
        s.micros ≤ s'.micros)))))

/-- The order of the texts of points in time is that of their fields. -/
theorem bytesLe_stamp {s s' : Stamp} (h : s.Fits) (h' : s'.Fits) :
    Cell.bytesLe (s.chars.flatMap String.utf8EncodeChar)
        (s'.chars.flatMap String.utf8EncodeChar) = true ↔ FieldsLe s s' := by
  rw [Stamp.chars, Stamp.chars, bytesLe_field (by decide) h.year h'.year (by decide),
    bytesLe_field (by decide) h.month h'.month (by decide),
    bytesLe_field (by decide) h.day h'.day (by decide),
    bytesLe_field (by decide) h.hour h'.hour (by decide),
    bytesLe_field (by decide) h.minute h'.minute (by decide),
    bytesLe_field (by decide) h.second h'.second (by decide),
    bytesLe_field (by decide) h.micros h'.micros (by decide)]
  simp only [FieldsLe, List.flatMap_nil, Cell.bytesLe, and_true, ← Nat.le_iff_lt_or_eq]

theorem storedTime_le_iff_fields {t t' : Instant} (h : t.Writable) (h' : t'.Writable) :
    (Cell.text (storedTime t)).le (.text (storedTime t')) = true ↔
      FieldsLe t.written t'.written := by
  rw [Cell.le, Cell.bytes, Cell.bytes, storedTime, storedTime, Text.encodeUtf8_ofList,
    Text.encodeUtf8_ofList, h.chars_micros, h'.chars_micros, bytesLe_stamp h.fits h'.fits]

theorem fieldsLe_of_le {t t' : Instant} (h : t.Writable) (h' : t'.Writable) (hle : t ≤ t') :
    FieldsLe t.written t'.written := by
  have hsecond := t.secondOfDay_lt
  have hsecond' := t'.secondOfDay_lt
  have hsplit : t.seconds = 86400 * (t.seconds / 86400) + t.secondOfDay := by
    rw [Instant.secondOfDay]
    omega
  have hsplit' : t'.seconds = 86400 * (t'.seconds / 86400) + t'.secondOfDay := by
    rw [Instant.secondOfDay]
    omega
  have hlow := h.yearLow
  have hlow' := h'.yearLow
  have hleap := h.leap_cases
  have hleap' := h'.leap_cases
  rw [Time.nanosPerSecond] at hleap hleap'
  rw [Instant.le_def] at hle
  rw [FieldsLe]
  simp only [Instant.written, Instant.stamp, Time.nanosPerSecond]
  rcases Int.lt_trichotomy (t.seconds / 86400) (t'.seconds / 86400) with hlt | heq | hgt
  · have hbefore : t.date.Before t'.date := Time.ofDayNumber_before hlt
    rw [Time.Date.Before] at hbefore
    omega
  · have hdate : t.date = t'.date := congrArg Time.Date.ofDayNumber heq
    rw [hdate]
    omega
  · omega

theorem FieldsLe.antisymm {s s' : Stamp} (h : FieldsLe s s') (h' : FieldsLe s' s) : s = s' := by
  obtain ⟨y, mo, d, hr, mi, sec, us⟩ := s
  obtain ⟨y', mo', d', hr', mi', sec', us'⟩ := s'
  simp only [FieldsLe, Stamp.mk.injEq] at *
  omega

/-- The order of stored points in time is the order in time, to the microsecond. -/
theorem storedTime_le_iff {t t' : Instant} (h : t.Writable) (h' : t'.Writable) :
    (Cell.text (storedTime t)).le (.text (storedTime t')) = true ↔ t.truncate ≤ t'.truncate := by
  have hwritten : ∀ t : Instant, t.truncate.written = t.written := fun t => by
    have hmicros : (t.nanos / 1000 * 1000 - t.leap * Time.nanosPerSecond) / 1000 =
        (t.nanos - t.leap * Time.nanosPerSecond) / 1000 := by
      rw [Time.nanosPerSecond]
      omega
    rw [Instant.written, Instant.leap_truncate, Instant.truncate, hmicros]
    rfl
  have hfields : ∀ t t' : Instant, t.Writable → t'.Writable → t.truncate ≤ t'.truncate →
      FieldsLe t.written t'.written := fun t t' h h' hle => by
    have := fieldsLe_of_le h.truncate h'.truncate hle
    rwa [hwritten, hwritten] at this
  rw [storedTime_le_iff_fields h h']
  refine ⟨fun hle => ?_, hfields t t' h h'⟩
  rcases Instant.le_total t.truncate t'.truncate with hlt | hgt
  · exact hlt
  · have hsame : t.written = t'.written := hle.antisymm (hfields t' t h' h hgt)
    have hread := h.ofStored
    rw [h.chars_micros, hsame, ← h'.chars_micros, h'.ofStored] at hread
    rw [Except.ok.inj hread]
    exact Instant.le_refl _

/-! ## Stored points in time as bytes -/

theorem lt_128_of_mem_chars {s : Stamp} {c : Char} (h : c ∈ s.chars) : c.toNat < 128 := by
  have hdigit : ∀ width n, c ∈ paddedDigits width n → c.toNat < 128 := fun width n hc => by
    have := isDigit_of_mem_paddedDigits hc
    simp only [Char.isDigit, Bool.and_eq_true, decide_eq_true_eq, UInt32.le_iff_toNat_le] at this
    exact Nat.lt_of_le_of_lt this.2 (by decide)
  simp only [Stamp.chars, List.mem_append, List.mem_cons, List.not_mem_nil, or_false] at h
  rcases h with h | rfl | h | rfl | h | rfl | h | rfl | h | rfl | h | rfl | h | rfl
  all_goals first | exact hdigit _ _ h | decide

/-- All stored points in time have the same length, in characters and in bytes. -/
theorem length_storedTime {t : Instant} (h : t.Writable) :
    (storedTime t).length = 27 ∧ (Text.encodeUtf8 (storedTime t)).length = 27 := by
  have hbytes : ∀ c ∈ t.written.chars, (String.utf8EncodeChar c).length = 1 := fun c hc => by
    rw [Text.utf8EncodeChar_of_lt (lt_128_of_mem_chars hc), List.length_singleton]
  have hlength := h.fits.length
  refine ⟨?_, ?_⟩
  · rw [storedTime, String.length_ofList, h.chars_micros, hlength]
  · rw [storedTime, Text.encodeUtf8_ofList, h.chars_micros, List.length_flatMap,
      List.map_congr_left hbytes, List.map_const', List.sum_replicate_nat, hlength]

/-- Bytes are compared one after the other, as the elements of lists are. -/
theorem bytesLe_iff {bs bs' : List UInt8} : Cell.bytesLe bs bs' = true ↔ ¬ bs' < bs := by
  induction bs generalizing bs' with
  | nil => simp [Cell.bytesLe]
  | cons b bs ih =>
    cases bs' with
    | nil => simp [Cell.bytesLe]
    | cons b' bs' =>
      rw [Cell.bytesLe, Bool.or_eq_true, Bool.and_eq_true, decide_eq_true_iff, beq_iff_eq, ih,
        List.cons_lt_cons_iff, UInt8.lt_iff_toNat_lt, UInt8.lt_iff_toNat_lt, ← UInt8.toNat_inj,
        ← UInt8.toNat_inj]
      constructor
      · rintro (hlt | ⟨heq, hle⟩) (hgt | ⟨heq', hgt⟩)
        · omega
        · omega
        · omega
        · exact hle hgt
      · intro h
        rcases Nat.lt_trichotomy b.toNat b'.toNat with hlt | heq | hgt
        · exact .inl hlt
        · exact .inr ⟨heq, fun hgt => h (.inr ⟨heq.symm, hgt⟩)⟩
        · exact absurd (.inl hgt) h

/-- The texts of points in time are in the order of time, byte by byte. -/
theorem storedTime_lt_iff {t t' : Instant} (h : t.Writable) (h' : t'.Writable) :
    Text.encodeUtf8 (storedTime t) < Text.encodeUtf8 (storedTime t') ↔
      ¬ t'.truncate ≤ t.truncate := by
  rw [← storedTime_le_iff h' h, Cell.le, Cell.bytes, Cell.bytes, bytesLe_iff, Classical.not_not]

end ChatRelay.Store
