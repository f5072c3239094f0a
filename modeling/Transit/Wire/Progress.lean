import Transit.Wire.Reader

/-!
# Progress, termination and the cursor that stops at `2 ^ 53`

The reader's loops carry no bound of their own: `while (pos < end)` ends because every
iteration moves the cursor forward.  It does, as long as the cursor is below `2 ^ 53`: the key
read consumes at least one index, and every way a body moves on (`next`, `next + len`,
`pos + 4`, `pos + 8`, `skipField`) is a sum that rounding cannot bring back below a number
that was exceeded.  So a loop whose `end` is at most `2 ^ 53` runs out of range after finitely
many iterations, and terminates as soon as each iteration does.

From `2 ^ 53` on, `pos++` rounds back to `2 ^ 53`.  Past the end of the buffer every key reads
as `0`, field `0` of wire type `0`, which a body skips as a varint, again `0`; the cursor climbs
by two an iteration, reaches `2 ^ 53` and stays there.  A loop whose `end` lies beyond runs
forever.

## Main definitions

* `iteration` — one iteration of a message loop: read the key, run the body.
* `Advances` — a body never moves the cursor back below a number it was above.
* `MovesForward` — every iteration from a cursor below `2 ^ 53` ends at a larger one.
* `Terminates` — some fuel finishes the call, by returning or by throwing.
* `SkipsZero` — a body skips a field of key `0` as a varint.

## Main results

* `varintLoop_snd` — `readVarint` consumes its bytes up to the first without `0x80`, or one
  index past the end of the buffer.
* `Advances.movesForward` — a body that advances moves every iteration forward.
* `fieldLoop_terminates` — a loop whose `end` is at most `2 ^ 53` terminates when its
  iterations in range do.
* `fieldLoop_stuck` — past the buffer, a loop whose `end` is beyond `2 ^ 53` never finishes.
-/

namespace Transit

namespace Num

/-- Rounding keeps at least `53` significant bits: what is left after the low bits are
dropped is at least `2 ^ 52`. -/
theorem two_pow_52_le_shiftRight_excessBits :
    ∀ (k x : ℕ), 2 ^ 53 ≤ x → 2 ^ 52 ≤ x >>> excessBits k x
  | 0, x, h => by simp only [excessBits, Nat.shiftRight_zero]; omega
  | k + 1, x, h => by
    rw [excessBits, if_neg (by omega), Nat.shiftRight_succ_inside]
    by_cases hx : 2 ^ 53 ≤ x / 2
    · exact two_pow_52_le_shiftRight_excessBits k (x / 2) hx
    · rw [excessBits_of_lt (by omega), Nat.shiftRight_zero]; omega

/-- A number above a cursor below `2 ^ 53` stays above it when rounded: it is exact, or at
least `2 ^ 53`, or `Infinity`. -/
theorem lt_ofNat {p x : ℕ} (hp : p < 2 ^ 53) (h : p < x) : fin p < ofNat x := by
  by_cases hx : x < 2 ^ 53
  · rw [ofNat_of_lt hx]; exact h
  have hq := two_pow_52_le_shiftRight_excessBits 1024 x (by omega)
  have he : 2 ≤ 2 ^ excessBits 1024 x := by
    rw [excessBits, if_neg hx, pow_succ]
    have := Nat.one_le_two_pow (n := excessBits 1023 (x / 2))
    omega
  have hle : ∀ q, x >>> excessBits 1024 x ≤ q → p < q <<< excessBits 1024 x := by
    intro q hq'
    rw [Nat.shiftLeft_eq]
    nlinarith
  unfold ofNat
  dsimp only
  split_ifs
  all_goals first | exact hle _ (by omega) | exact True.intro

/-- So a sum stays above a cursor below `2 ^ 53` that its first term is above. -/
theorem lt_add {p : ℕ} (hp : p < 2 ^ 53) : ∀ {a : Num} (b : Num), fin p < a → fin p < a + b
  | fin _, fin _, h => lt_ofNat hp (Nat.lt_add_right _ h)
  | fin _, inf, _ => trivial
  | inf, _, _ => trivial

/-- `pos++` at and below `2 ^ 53`: exact up to `2 ^ 53`, which does not move. -/
theorem ofNat_succ {p : ℕ} (hp : p ≤ 2 ^ 53) : ofNat (p + 1) = fin (min (p + 1) (2 ^ 53)) := by
  rcases Nat.lt_or_ge (p + 1) (2 ^ 53) with h | h
  · rw [ofNat_of_lt h, min_eq_left h.le]
  · rcases (by omega : p + 1 = 2 ^ 53 ∨ p = 2 ^ 53) with h' | rfl
    · rw [h', min_self]; decide
    · decide

end Num

/-! ### The varint reader stops -/

/-- **`readVarint` consumes the bytes up to and including the first without `0x80`**, or, when
every byte to the end of the buffer has it, all of them and the `undefined` past the end. -/
theorem varintLoop_snd :
    ∀ (bs : List UInt8) (s x : ℕ),
      (varintLoop bs s x).2 = (bs.takeWhile fun b => b.toNat &&& 0x80 != 0).length + 1
  | [], _, _ => rfl
  | b :: bs, s, x => by
    by_cases hb : b.toNat &&& 0x80 = 0
    · simp [varintLoop, hb]
    · simp [varintLoop, hb, varintLoop_snd bs]

theorem readVarint_next (u8 : ArrayBuffer) (i : Num) :
    (readVarint u8 i).next =
      i + .fin (((u8.bytesFrom i).takeWhile fun b => b.toNat &&& 0x80 != 0).length + 1) := by
  rw [readVarint, varintLoop_snd]

/-- Past the end of the buffer a varint is `0`, one index long. -/
theorem readVarint_past_end {u8 : ArrayBuffer} {p : ℕ} (h : u8.data.length ≤ p)
    (hp : p ≤ 2 ^ 53) : readVarint u8 (.fin p) = ⟨.fin 0, .fin (min (p + 1) (2 ^ 53))⟩ := by
  simp only [readVarint, ArrayBuffer.bytesFrom_fin, List.drop_eq_nil_of_le h, varintLoop,
    Num.fin_add_fin, Num.ofNat_succ hp]
  rfl

/-! ### Every iteration moves forward -/

section Advance

variable {α : Type} (u8 : ArrayBuffer) {p : ℕ}

/-- One iteration of a message loop from the cursor `pos`: read the key, and let the body
handle the field. -/
def iteration (body : FieldBody α) (fuel : ℕ) (pos : Num) (obj : α) : Outcome (Num × α) :=
  let key := readVarint u8 pos
  body fuel key.value.fieldNo key.value.wireType key.next obj

theorem fieldLoop_succ_iteration (stop : Num) (body : FieldBody α) (fuel : ℕ) (pos : Num)
    (obj : α) :
    fieldLoop u8 stop body (fuel + 1) pos obj =
      if pos < stop then
        (iteration u8 body fuel pos obj).bind fun r => fieldLoop u8 stop body fuel r.1 r.2
      else .ret obj := rfl

/-- **A loop keeps every property of its object that each iteration keeps.** -/
theorem fieldLoop_inv {stop : Num} {body : FieldBody α} {I : α → Prop}
    (hb : ∀ fuel pos obj r, I obj → iteration u8 body fuel pos obj = .ret r → I r.2) :
    ∀ fuel pos (obj : α) r, I obj → fieldLoop u8 stop body fuel pos obj = .ret r → I r
  | 0, _, _, _, _, h => nomatch h
  | fuel + 1, pos, obj, r, hi, h => by
    rw [fieldLoop_succ_iteration] at h
    split_ifs at h
    · obtain ⟨r', hr', hrest⟩ := Outcome.bind_eq_ret.1 h
      exact fieldLoop_inv hb fuel r'.1 r'.2 r (hb fuel pos obj r' hi hr') hrest
    · cases h
      exact hi

/-- The cursor after a key is never `0`. -/
theorem zero_lt_readVarint_next (pos : Num) : .fin 0 < (readVarint u8 pos).next := by
  cases pos with
  | fin q =>
    rw [readVarint_next, Num.fin_add_fin]
    exact Num.lt_ofNat (by norm_num) (by omega)
  | inf => exact Num.lt_add (by norm_num) _ trivial

/-- A body advances when, handed a cursor above some `p` below `2 ^ 53`, it moves on to a
cursor above `p` whenever it returns. -/
def Advances (body : FieldBody α) : Prop :=
  ∀ p, p < 2 ^ 53 → ∀ fuel fno wt pos (obj : α) r, .fin p < pos →
    body fuel fno wt pos obj = .ret r → .fin p < r.1

theorem lt_readVarint_next (hp : p < 2 ^ 53) {pos : Num} (h : .fin p < pos) :
    .fin p < (readVarint u8 pos).next :=
  Num.lt_add hp _ h

theorem lt_readVarint_end (hp : p < 2 ^ 53) {pos : Num} (h : .fin p < pos) :
    .fin p < (readVarint u8 pos).next + (readVarint u8 pos).value :=
  Num.lt_add hp _ (lt_readVarint_next u8 hp h)

/-- `skipField` never moves back, whatever the wire type; types `3`, `4`, `6` and `7` leave
the cursor where it is. -/
theorem lt_skipField (hp : p < 2 ^ 53) {pos : Num} (h : .fin p < pos) (w : ℕ) :
    .fin p < skipField u8 pos w := by
  match w with
  | 0 => exact lt_readVarint_next u8 hp h
  | 1 | 5 => exact Num.lt_add hp _ h
  | 2 => exact lt_readVarint_end u8 hp h
  | 3 | 4 | 6 | 7 | _ + 8 => exact h

/-- The key of a cursor below `2 ^ 53` takes at least one index. -/
theorem lt_readVarint_next_self (hp : p < 2 ^ 53) : .fin p < (readVarint u8 (.fin p)).next := by
  rw [readVarint_next, ArrayBuffer.bytesFrom_fin, Num.fin_add_fin]
  exact Num.lt_ofNat hp (by omega)

/-- Every iteration of a loop with this body from a cursor below `2 ^ 53` that finishes ends
at a larger cursor. -/
def MovesForward (body : FieldBody α) : Prop :=
  ∀ fuel p (obj : α) r, p < 2 ^ 53 → iteration u8 body fuel (.fin p) obj = .ret r → .fin p < r.1

/-- **A body that advances moves every iteration forward**: the key takes at least one index. -/
theorem Advances.movesForward {body : FieldBody α} (h : Advances body) : MovesForward u8 body :=
  fun fuel p obj r hp hr => h p hp fuel _ _ _ obj r (lt_readVarint_next_self u8 hp) hr

end Advance

/-! ### Termination below `2 ^ 53` -/

/-- A call modelled with fuel terminates when some fuel finishes it, returning or throwing. -/
def Terminates {α : Type} (f : ℕ → Outcome α) : Prop := ∃ n, f n ≠ .outOfFuel

theorem Terminates.map {α β : Type} {f : ℕ → Outcome α} (h : Terminates f) (g : α → β) :
    Terminates fun n => (f n).map g := by
  obtain ⟨n, hn⟩ := h
  refine ⟨n, ?_⟩
  cases hf : f n with
  | outOfFuel => exact absurd hf hn
  | _ => dsimp only; rw [hf]; exact Outcome.noConfusion

/-- A monotone call that runs out of every large enough fuel runs out of every fuel. -/
theorem FuelMono.outOfFuel_of_add {α : Type} {f : ℕ → Outcome α} (hf : FuelMono f) {N : ℕ}
    (h : ∀ n, f (n + N) = .outOfFuel) (n : ℕ) : f n = .outOfFuel := by
  by_contra hn
  have := hf.le hn (n + N) (by omega)
  rw [h n] at this
  exact hn this.symm

section Terminate

variable {α : Type} (u8 : ArrayBuffer) {body : FieldBody α}

theorem fieldLoop_terminates_of_not_lt {stop pos : Num} (h : ¬ pos < stop) (obj : α) :
    Terminates fun n => fieldLoop u8 stop body n pos obj :=
  ⟨1, by dsimp only; rw [fieldLoop_of_not_lt u8 stop body h]; exact Outcome.noConfusion⟩

/-- **A loop whose end is at most `2 ^ 53` terminates when its iterations in range do**: the
cursor moves forward at every iteration and leaves the range after at most `end` of them. -/
theorem fieldLoop_terminates {e : ℕ} (he : e ≤ 2 ^ 53) (hmono : BodyMono body)
    (hadv : Advances body)
    (hterm : ∀ p, p < e → ∀ obj : α, Terminates fun n => iteration u8 body n (.fin p) obj) :
    ∀ (pos : Num) (obj : α), Terminates fun n => fieldLoop u8 (.fin e) body n pos obj := by
  suffices h : ∀ m p (obj : α), e - p = m →
      Terminates fun n => fieldLoop u8 (.fin e) body n (.fin p) obj by
    intro pos obj
    cases pos with
    | fin p => exact h _ p obj rfl
    | inf => exact fieldLoop_terminates_of_not_lt u8 (Num.not_inf_lt _) obj
  intro m
  induction m using Nat.strong_induction_on with
  | _ m ih =>
    intro p obj hm
    by_cases hlt : p < e
    swap
    · exact fieldLoop_terminates_of_not_lt u8 (by simpa using hlt) obj
    obtain ⟨n₀, hn₀⟩ := hterm p hlt obj
    cases hb : body n₀ (readVarint u8 (.fin p)).value.fieldNo
        (readVarint u8 (.fin p)).value.wireType (readVarint u8 (.fin p)).next obj with
    | outOfFuel => exact absurd hb hn₀
    | error err =>
      refine ⟨n₀ + 1, ?_⟩
      dsimp only
      rw [fieldLoop_succ_iteration, if_pos (Num.fin_lt_fin.2 hlt), iteration, hb]
      exact Outcome.noConfusion
    | ret r =>
      -- the rest of the loop starts above `p`, so it terminates by induction
      have hr : .fin p < r.1 := hadv.movesForward u8 n₀ p obj r (by omega) hb
      obtain ⟨n₁, hn₁⟩ : Terminates fun n => fieldLoop u8 (.fin e) body n r.1 r.2 := by
        cases h1 : r.1 with
        | inf => exact fieldLoop_terminates_of_not_lt u8 (Num.not_inf_lt _) _
        | fin p' => rw [h1] at hr; exact ih (e - p') (by simp at hr; omega) p' r.2 rfl
      have hbody := (hmono _ _ _ obj).le (by rw [hb]; exact Outcome.noConfusion)
        (max n₀ n₁) (le_max_left _ _)
      refine ⟨max n₀ n₁ + 1, ?_⟩
      dsimp only
      rw [fieldLoop_succ_iteration, if_pos (Num.fin_lt_fin.2 hlt), iteration, hbody, hb,
        Outcome.ret_bind, (fieldLoop_mono u8 _ body hmono r.1 r.2).le hn₁ _ (le_max_right _ _)]
      exact hn₁

end Terminate

/-! ### Past the buffer, beyond `2 ^ 53` -/

/-- A body skips a field of key `0` (field `0`, wire type `0`) as a varint. -/
def SkipsZero {α : Type} (u8 : ArrayBuffer) (body : FieldBody α) : Prop :=
  ∀ fuel pos (obj : α), body fuel 0 0 pos obj = .ret (skipField u8 pos 0, obj)

/-- **A loop past the end of the buffer whose end lies beyond `2 ^ 53` never finishes**: its
cursor climbs by two an iteration up to `2 ^ 53`, where it stays. -/
theorem fieldLoop_stuck {α : Type} {u8 : ArrayBuffer} {stop : Num} {body : FieldBody α}
    (hskip : SkipsZero u8 body) (hstop : .fin (2 ^ 53) < stop) :
    ∀ (fuel p : ℕ) (obj : α), u8.data.length ≤ p → p ≤ 2 ^ 53 →
      fieldLoop u8 stop body fuel (.fin p) obj = .outOfFuel
  | 0, _, _, _, _ => rfl
  | fuel + 1, p, obj, h₁, h₂ => by
    have hlt : .fin p < stop := by
      cases stop with
      | fin e => simp only [Num.fin_lt_fin] at hstop ⊢; omega
      | inf => trivial
    have hnext : readVarint u8 (.fin (min (p + 1) (2 ^ 53))) =
        ⟨.fin 0, .fin (min (min (p + 1) (2 ^ 53) + 1) (2 ^ 53))⟩ :=
      readVarint_past_end (by omega) (by omega)
    rw [fieldLoop_succ, if_pos hlt, readVarint_past_end h₁ h₂]
    simp only [show (Num.fin 0).fieldNo = 0 from rfl, show (Num.fin 0).wireType = 0 from rfl]
    rw [hskip fuel, Outcome.ret_bind, skipField, hnext]
    exact fieldLoop_stuck hskip hstop fuel _ obj (by omega) (by omega)

end Transit
