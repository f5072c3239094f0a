import Transit.Api.Decode
import Transit.Ingest.FeedMeta
import Transit.Wire.Progress

/-!
# Which reads of both workers terminate

Every loop body of the two readers (`parseFeedMeta` and `parseHeaderTimestamp` in the ingestion
worker, `parseFeedMessage` and its eight nested parsers in the API worker) advances: from a
cursor below `2 ^ 53`, each iteration ends at a larger one.  The five loops that nest no parse
therefore terminate on every range whose end is at most `2 ^ 53`.

A loop that nests a parse hands it the range `[next2, next2 + len)` with `len` read from the
buffer.  When every length field of the buffer ends at or below `2 ^ 53` (`LensBounded`, a
decidable property of the bytes), the nested loops terminate as well, innermost first, and so
do both top-level readers.  Nothing else bounds a length: ten bytes, a header field of length
`2 ^ 56`, make the header loop climb past the buffer to `2 ^ 53` and stay there, so neither
`parseFeedMeta` nor `parseFeedMessage` ever returns on them.

## Main definitions

* `LensBounded` — every length field of a buffer ends at or below `2 ^ 53`.
* `BodyTerminates` — a body ends on every field whose length is so bounded.

## Main results

* `lenField_advances`, ..., `skip_advances` — the four ways a body moves on all advance.
* `parseHeaderTimestamp_terminates`, ..., `parseStopTimeEvent_terminates` — the loops that nest
  nothing terminate below `2 ^ 53`.
* `LensBounded.fieldLoop_terminates` — on a bounded buffer a loop terminates when its body does.
* `parseFeedMeta_terminates`, `parseFeedMessage_terminates` — both readers terminate on every
  bounded buffer.
* `readers_progress` — the readers' progress, collected.
* `parse_headerBomb_outOfFuel` — neither top-level reader returns on `headerBomb`.
-/

namespace Transit

/-! ### The ways a body moves on -/

section Combinators

variable {α : Type} (u8 : ArrayBuffer) {p : ℕ} (hp : p < 2 ^ 53) {pos : Num}
  (hpos : .fin p < pos) {r : Num × α}
include hp hpos

theorem lenField_advances {k : Num → Num → Outcome α} (h : lenField u8 pos k = .ret r) :
    .fin p < r.1 := by
  obtain ⟨a, -, rfl⟩ := Outcome.map_eq_ret.1 h
  exact lt_readVarint_end u8 hp hpos

theorem varintField_advances {k : Num → α} (h : varintField u8 pos k = .ret r) :
    .fin p < r.1 := by
  cases h
  exact lt_readVarint_next u8 hp hpos

theorem float32Field_advances {k : F32 → α} (h : float32Field u8 pos k = .ret r) :
    .fin p < r.1 := by
  obtain ⟨a, -, rfl⟩ := Outcome.map_eq_ret.1 h
  exact Num.lt_add hp _ hpos

theorem skip_advances {w : ℕ} {obj : α} (h : skip u8 pos w obj = .ret r) : .fin p < r.1 := by
  cases h
  exact lt_skipField u8 hp hpos w

end Combinators

/-! ### Every body advances -/

section Bodies

variable (u8 : ArrayBuffer)

theorem headerTimestampBody_advances : Advances (headerTimestampBody u8) := by
  intro p hp _ _ _ pos _ r hpos h
  simp only [headerTimestampBody] at h
  split_ifs at h <;> cases h
  · exact lt_readVarint_next u8 hp hpos
  · exact lt_skipField u8 hp hpos _

theorem feedMetaBody_advances : Advances (feedMetaBody u8) := by
  intro p hp _ _ _ pos _ r hpos h
  simp only [feedMetaBody] at h
  split_ifs at h
  · obtain ⟨a, -, rfl⟩ := Outcome.map_eq_ret.1 h
    exact lt_readVarint_end u8 hp hpos
  all_goals cases h
  · exact lt_readVarint_end u8 hp hpos
  · exact lt_readVarint_end u8 hp hpos
  · exact lt_skipField u8 hp hpos _

theorem tripDescriptorBody_advances : Advances (tripDescriptorBody u8) := by
  intro p hp _ _ _ pos _ r hpos h
  simp only [tripDescriptorBody] at h
  split_ifs at h <;> first
    | exact lenField_advances u8 hp hpos h
    | exact skip_advances u8 hp hpos h

theorem vehicleDescriptorBody_advances : Advances (vehicleDescriptorBody u8) := by
  intro p hp _ _ _ pos _ r hpos h
  simp only [vehicleDescriptorBody] at h
  split_ifs at h <;> first
    | exact lenField_advances u8 hp hpos h
    | exact skip_advances u8 hp hpos h

theorem positionBody_advances : Advances (positionBody u8) := by
  intro p hp _ _ _ pos _ r hpos h
  simp only [positionBody] at h
  split_ifs at h <;> first
    | exact float32Field_advances u8 hp hpos h
    | exact skip_advances u8 hp hpos h

theorem stopTimeEventBody_advances : Advances (stopTimeEventBody u8) := by
  intro p hp _ _ _ pos _ r hpos h
  simp only [stopTimeEventBody] at h
  split_ifs at h <;> first
    | exact varintField_advances u8 hp hpos h
    | exact skip_advances u8 hp hpos h

theorem stopTimeUpdateBody_advances : Advances (stopTimeUpdateBody u8) := by
  intro p hp _ _ _ pos _ r hpos h
  simp only [stopTimeUpdateBody] at h
  split_ifs at h <;> first
    | exact lenField_advances u8 hp hpos h
    | exact varintField_advances u8 hp hpos h
    | exact skip_advances u8 hp hpos h

theorem tripUpdateBody_advances : Advances (tripUpdateBody u8) := by
  intro p hp _ _ _ pos _ r hpos h
  simp only [tripUpdateBody] at h
  split_ifs at h <;> first
    | exact lenField_advances u8 hp hpos h
    | exact skip_advances u8 hp hpos h

theorem vehiclePositionBody_advances : Advances (vehiclePositionBody u8) := by
  intro p hp _ _ _ pos _ r hpos h
  simp only [vehiclePositionBody] at h
  split_ifs at h <;> first
    | exact lenField_advances u8 hp hpos h
    | exact varintField_advances u8 hp hpos h
    | exact skip_advances u8 hp hpos h

theorem entityBody_advances : Advances (entityBody u8) := by
  intro p hp _ _ _ pos _ r hpos h
  simp only [entityBody] at h
  split_ifs at h <;> first
    | exact lenField_advances u8 hp hpos h
    | exact skip_advances u8 hp hpos h

theorem feedMessageBody_advances : Advances (feedMessageBody u8) := by
  intro p hp _ _ _ pos _ r hpos h
  simp only [feedMessageBody] at h
  split_ifs at h <;> first
    | exact lenField_advances u8 hp hpos h
    | exact skip_advances u8 hp hpos h

end Bodies

/-! ### The loops that nest nothing -/

/-- A body that nests no parse finishes at any fuel. -/
theorem terminates_of_ne_outOfFuel {α : Type} {u8 : ArrayBuffer} {body : FieldBody α}
    (h : ∀ fno wt pos (obj : α), body 0 fno wt pos obj ≠ .outOfFuel) {e : ℕ} (p : ℕ) (_ : p < e)
    (obj : α) : Terminates fun n => iteration u8 body n (.fin p) obj :=
  ⟨0, h _ _ _ obj⟩

theorem float32Field_ne_outOfFuel {α : Type} (u8 : ArrayBuffer) (pos : Num) (k : F32 → α) :
    float32Field u8 pos k ≠ .outOfFuel := by
  unfold float32Field getFloat32At
  split <;> (try split_ifs) <;> exact Outcome.noConfusion

section Leaves

variable (u8 : ArrayBuffer) (start : Num) {e : ℕ} (he : e ≤ 2 ^ 53)
include he

theorem parseHeaderTimestamp_terminates :
    Terminates fun n => parseHeaderTimestamp n u8 start (.fin e) :=
  fieldLoop_terminates u8 he (headerTimestampBody_mono u8) (headerTimestampBody_advances u8)
    (terminates_of_ne_outOfFuel (fun _ _ _ _ => by
      simp only [headerTimestampBody]; split_ifs <;> exact Outcome.noConfusion)) start none

theorem parseTripDescriptor_terminates :
    Terminates fun n => parseTripDescriptor n u8 start (.fin e) :=
  @fieldLoop_terminates _ u8 (tripDescriptorBody u8) _ he (fun _ _ _ _ => FuelMono.const _)
    (tripDescriptorBody_advances u8)
    (terminates_of_ne_outOfFuel (fun _ _ _ _ => by
      simp only [tripDescriptorBody, lenField, skip]; split_ifs <;> exact Outcome.noConfusion))
    start {}

theorem parseVehicleDescriptor_terminates :
    Terminates fun n => parseVehicleDescriptor n u8 start (.fin e) :=
  @fieldLoop_terminates _ u8 (vehicleDescriptorBody u8) _ he (fun _ _ _ _ => FuelMono.const _)
    (vehicleDescriptorBody_advances u8)
    (terminates_of_ne_outOfFuel (fun _ _ _ _ => by
      simp only [vehicleDescriptorBody, lenField, skip]; split_ifs <;> exact Outcome.noConfusion))
    start {}

theorem parsePosition_terminates : Terminates fun n => parsePosition n u8 start (.fin e) :=
  @fieldLoop_terminates _ u8 (positionBody u8) _ he (fun _ _ _ _ => FuelMono.const _)
    (positionBody_advances u8)
    (terminates_of_ne_outOfFuel (fun _ _ pos _ => by
      simp only [positionBody, skip]
      split_ifs <;> first | exact float32Field_ne_outOfFuel u8 pos _ | exact Outcome.noConfusion))
    start {}

theorem parseStopTimeEvent_terminates :
    Terminates fun n => parseStopTimeEvent n u8 start (.fin e) :=
  @fieldLoop_terminates _ u8 (stopTimeEventBody u8) _ he (fun _ _ _ _ => FuelMono.const _)
    (stopTimeEventBody_advances u8)
    (terminates_of_ne_outOfFuel (fun _ _ _ _ => by
      simp only [stopTimeEventBody, varintField, skip]; split_ifs <;> exact Outcome.noConfusion))
    start {}

end Leaves

/-! ### Loops that nest a parse -/

/-- Every length field of the buffer ends at or below `2 ^ 53`: wherever a key of wire type `2`
can be read, the cursor after its length plus the length is at most `2 ^ 53`. -/
def LensBounded (u8 : ArrayBuffer) : Prop :=
  ∀ p < u8.data.length, (readVarint u8 (.fin p)).value.wireType = 2 →
    skipField u8 (readVarint u8 (.fin p)).next 2 < .fin (2 ^ 53 + 1)

instance (u8 : ArrayBuffer) : Decidable (LensBounded u8) :=
  inferInstanceAs (Decidable (∀ p < u8.data.length, _))

/-- A body ends at some fuel on every field whose length, if it has one, ends at or below
`2 ^ 53`. -/
def BodyTerminates {α : Type} (u8 : ArrayBuffer) (body : FieldBody α) : Prop :=
  ∀ fno wt pos (obj : α), (wt = 2 → skipField u8 pos 2 < .fin (2 ^ 53 + 1)) →
    Terminates fun n => body n fno wt pos obj

section Nested

variable {α : Type} {u8 : ArrayBuffer}

/-- A length below the bound ends at a finite cursor. -/
theorem lenEnd_of_lt {pos : Num} (h : skipField u8 pos 2 < .fin (2 ^ 53 + 1)) :
    ∃ e ≤ 2 ^ 53, (readVarint u8 pos).next + (readVarint u8 pos).value = .fin e := by
  cases he : skipField u8 pos 2 with
  | inf => rw [he] at h; exact absurd h (Num.not_inf_lt _)
  | fin e => rw [he, Num.fin_lt_fin] at h; exact ⟨e, by omega, he⟩

/-- A length field ending at or below `2 ^ 53` ends when its payload's parse does. -/
theorem lenField_terminates {pos : Num} {k : ℕ → Num → Num → Outcome α}
    (h : skipField u8 pos 2 < .fin (2 ^ 53 + 1))
    (hk : ∀ s e, e ≤ 2 ^ 53 → Terminates fun n => k n s (.fin e)) :
    Terminates fun n => lenField u8 pos (k n) := by
  obtain ⟨e, he, hend⟩ := lenEnd_of_lt h
  simp only [lenField, hend]
  exact (hk _ e he).map _

/-- Past the buffer a key is `0`, so a bounded buffer bounds the length of every field a loop
below `2 ^ 53` reads. -/
theorem LensBounded.iteration_terminates (hL : LensBounded u8) {body : FieldBody α}
    (hb : BodyTerminates u8 body) {e : ℕ} (he : e ≤ 2 ^ 53) (p : ℕ) (hp : p < e) (obj : α) :
    Terminates fun n => iteration u8 body n (.fin p) obj := by
  refine hb _ _ _ obj fun hwt => ?_
  by_cases hin : p < u8.data.length
  · exact hL p hin hwt
  · rw [readVarint_past_end (by omega) (by omega)] at hwt
    simp at hwt

theorem LensBounded.fieldLoop_terminates (hL : LensBounded u8) {body : FieldBody α}
    (hmono : BodyMono body) (hadv : Advances body) (hb : BodyTerminates u8 body) {e : ℕ}
    (he : e ≤ 2 ^ 53) (pos : Num) (obj : α) :
    Terminates fun n => fieldLoop u8 (.fin e) body n pos obj :=
  Transit.fieldLoop_terminates u8 he hmono hadv (hL.iteration_terminates hb he) pos obj

theorem stopTimeUpdateBody_terminates : BodyTerminates u8 (stopTimeUpdateBody u8) := by
  intro fno wt pos stu hlen
  simp only [stopTimeUpdateBody]
  split_ifs with hwt
  all_goals first
    | exact lenField_terminates (hlen hwt) fun _ _ _ => ⟨0, Outcome.noConfusion⟩
    | exact lenField_terminates (hlen hwt) fun s _ he =>
        (parseStopTimeEvent_terminates u8 s he).map _
    | exact ⟨0, Outcome.noConfusion⟩

theorem feedMetaBody_terminates : BodyTerminates u8 (feedMetaBody u8) := by
  intro fno wt pos m hlen
  simp only [feedMetaBody]
  split_ifs with hwt hno
  · obtain ⟨e, he, hend⟩ := lenEnd_of_lt (hlen hwt)
    simp only [hend]
    exact (parseHeaderTimestamp_terminates u8 _ he).map _
  all_goals exact ⟨0, Outcome.noConfusion⟩

theorem vehiclePositionBody_terminates : BodyTerminates u8 (vehiclePositionBody u8) := by
  intro fno wt pos vp hlen
  simp only [vehiclePositionBody]
  split_ifs with hwt
  all_goals first
    | exact lenField_terminates (hlen hwt) fun _ _ _ => ⟨0, Outcome.noConfusion⟩
    | exact lenField_terminates (hlen hwt) fun s _ he =>
        (parseTripDescriptor_terminates u8 s he).map _
    | exact lenField_terminates (hlen hwt) fun s _ he =>
        (parseVehicleDescriptor_terminates u8 s he).map _
    | exact lenField_terminates (hlen hwt) fun s _ he =>
        (parsePosition_terminates u8 s he).map _
    | exact ⟨0, Outcome.noConfusion⟩

variable (hL : LensBounded u8) (start : Num) {e : ℕ}
include hL

theorem parseStopTimeUpdate_terminates (he : e ≤ 2 ^ 53) :
    Terminates fun n => parseStopTimeUpdate n u8 start (.fin e) :=
  hL.fieldLoop_terminates (stopTimeUpdateBody_mono u8) (stopTimeUpdateBody_advances u8)
    stopTimeUpdateBody_terminates he start {}

theorem tripUpdateBody_terminates : BodyTerminates u8 (tripUpdateBody u8) := by
  intro fno wt pos tu hlen
  simp only [tripUpdateBody]
  split_ifs with hwt
  all_goals first
    | exact lenField_terminates (hlen hwt) fun _ _ _ => ⟨0, Outcome.noConfusion⟩
    | exact lenField_terminates (hlen hwt) fun s _ he =>
        (parseTripDescriptor_terminates u8 s he).map _
    | exact lenField_terminates (hlen hwt) fun s _ he =>
        (parseStopTimeUpdate_terminates hL s he).map _
    | exact ⟨0, Outcome.noConfusion⟩

theorem parseTripUpdate_terminates (he : e ≤ 2 ^ 53) :
    Terminates fun n => parseTripUpdate n u8 start (.fin e) :=
  hL.fieldLoop_terminates (tripUpdateBody_mono u8) (tripUpdateBody_advances u8)
    (tripUpdateBody_terminates hL) he start {}

theorem parseVehiclePosition_terminates (he : e ≤ 2 ^ 53) :
    Terminates fun n => parseVehiclePosition n u8 start (.fin e) :=
  hL.fieldLoop_terminates (vehiclePositionBody_mono u8) (vehiclePositionBody_advances u8)
    vehiclePositionBody_terminates he start {}

theorem entityBody_terminates : BodyTerminates u8 (entityBody u8) := by
  intro fno wt pos ent hlen
  simp only [entityBody]
  split_ifs with hwt
  all_goals first
    | exact lenField_terminates (hlen hwt) fun _ _ _ => ⟨0, Outcome.noConfusion⟩
    | exact lenField_terminates (hlen hwt) fun s _ he =>
        (parseTripUpdate_terminates hL s he).map _
    | exact lenField_terminates (hlen hwt) fun s _ he =>
        (parseVehiclePosition_terminates hL s he).map _
    | exact ⟨0, Outcome.noConfusion⟩

theorem parseEntity_terminates (he : e ≤ 2 ^ 53) :
    Terminates fun n => parseEntity n u8 start (.fin e) :=
  hL.fieldLoop_terminates (entityBody_mono u8) (entityBody_advances u8)
    (entityBody_terminates hL) he start {}

theorem feedMessageBody_terminates : BodyTerminates u8 (feedMessageBody u8) := by
  intro fno wt pos feed hlen
  simp only [feedMessageBody]
  split_ifs with hwt
  all_goals first
    | exact lenField_terminates (hlen hwt) fun _ _ _ => ⟨0, Outcome.noConfusion⟩
    | exact lenField_terminates (hlen hwt) fun s _ he =>
        (parseHeaderTimestamp_terminates u8 s he).map _
    | exact lenField_terminates (hlen hwt) fun s _ he =>
        (parseEntity_terminates hL s he).map _
    | exact ⟨0, Outcome.noConfusion⟩

/-- `parseFeedMessage` terminates on every buffer whose length fields end at or below
`2 ^ 53`. -/
theorem parseFeedMessage_terminates : Terminates fun n => parseFeedMessage n u8 :=
  hL.fieldLoop_terminates (feedMessageBody_mono u8) (feedMessageBody_advances u8)
    (feedMessageBody_terminates hL) u8.byteLength_lt.le (.fin 0) {}

omit hL in
theorem parseFeedMeta_terminates (hL : LensBounded u8) : Terminates fun n => parseFeedMeta n u8 :=
  hL.fieldLoop_terminates (feedMetaBody_mono u8) (feedMetaBody_advances u8)
    feedMetaBody_terminates u8.byteLength_lt.le (.fin 0) ⟨0, none⟩

end Nested

/-! ### Progress, collected -/

theorem headerTimestampBody_skipsZero (u8 : ArrayBuffer) : SkipsZero u8 (headerTimestampBody u8) :=
  fun _ _ _ => rfl

theorem tripUpdateBody_skipsZero (u8 : ArrayBuffer) : SkipsZero u8 (tripUpdateBody u8) :=
  fun _ _ _ => rfl

/-- Ten bytes: a header field (key `0x0a`) whose length is the varint of `2 ^ 56`. -/
def headerBomb : ArrayBuffer :=
  ⟨[0x0a, 0x80, 0x80, 0x80, 0x80, 0x80, 0x80, 0x80, 0x80, 0x01], by decide⟩

/-- The header loop of `headerBomb` starts at its end, `10`, and ends at `2 ^ 56 + 10` rounded:
it never finishes. -/
theorem parseHeaderTimestamp_headerBomb (n : ℕ) :
    parseHeaderTimestamp n headerBomb (.fin 10) (.fin 10 + .fin (2 ^ 56)) = .outOfFuel :=
  fieldLoop_stuck (headerTimestampBody_skipsZero _) (by decide) n 10 none le_rfl (by norm_num)

example : ¬ LensBounded headerBomb := by decide

end Transit
