import Mathlib.Data.List.TakeWhile
import Registrar.Proofs.Breaker.Traffic

/-!
# The probe slot

At most one probe tests the service at a time, and `Breaker.probing` says whether one is out.
`SlotKept` states this for the probes admitted since the last reset; it holds after every history in
which no older probe interferes, and so after every history without a reset.

Main statement: `probing_iff_existsUnique_probe`, the whole contract of the slot without resets.
-/

namespace Registrar.Traffic

open Function (update)

variable {b : Breaker} {t : Tick} {past : List Tick} {c d : CallId} {o : Outcome}

/-- The call was admitted as a probe and has not settled yet. -/
abbrev HasProbe (s : Traffic) (c : CallId) : Prop := s.phase c = .running .probe

def isHalfOpen (b : Breaker) : Bool := b.mode == .halfOpen

/-- A probe that is out and was admitted after the last reset. -/
def Fresh (b : Breaker) (past : List Tick) (c : CallId) : Prop :=
  (play b past).HasProbe c ∧ (play b (upToReset past)).phase c = .ahead

/-- A probe that is out although the breaker was reset after its admission. -/
def Stale (b : Breaker) (past : List Tick) (c : CallId) : Prop :=
  (play b past).HasProbe c ∧ (play b (upToReset past)).phase c ≠ .ahead

/-- A probe that is out and was admitted in the present half-open period. -/
def Current (b : Breaker) (past : List Tick) (c : CallId) : Prop :=
  (play b past).HasProbe c ∧ (play b (before isHalfOpen b past)).phase c = .ahead

/-- A stale probe ends in a way that the present period notices: it frees the slot or brings an
outcome while the breaker is half-open, or clears the streak of an open one. -/
def Interferes (b : Breaker) (past : List Tick) (t : Tick) : Prop :=
  ∃ c o, t.act.ending = some (c, o) ∧ Stale b past c ∧
    ((play b past).breaker.mode = .halfOpen ∧
        ((play b past).breaker.probing = true ∨ o ≠ .ignored) ∨
      (play b past).breaker.mode = .opened ∧ o = .success)

/-- No tick of the history was an interference. -/
def Undisturbed (b : Breaker) (past : List Tick) : Prop :=
  ∀ t earlier, t :: earlier <:+ past → ¬Interferes b earlier t

theorem Undisturbed.tail (h : Undisturbed b (t :: past)) : Undisturbed b past :=
  fun u earlier hs => h u earlier (hs.trans (List.suffix_cons t past))

theorem Undisturbed.head (h : Undisturbed b (t :: past)) : ¬Interferes b past t :=
  h t past List.suffix_rfl

theorem undisturbed_nil (b : Breaker) : Undisturbed b [] := fun t earlier hs => by
  simp at hs

theorem undisturbed_cons (h : Undisturbed b past) (ht : ¬Interferes b past t) :
    Undisturbed b (t :: past) := fun u earlier hs => by
  rcases List.suffix_cons_iff.1 hs with he | hs
  · cases he
    exact ht
  · exact h u earlier hs

/-! ## Probes of the present period -/

theorem Current.mode (h : Current b past c) : (play b past).breaker.mode = .halfOpen := by
  have := pos_of_ahead_before (by rw [h.1]; simp) h.2
  simpa [isHalfOpen] using this

/-- A reset ends the half-open period, so the present one began after the last reset. -/
theorem upToReset_suffix_before (b : Breaker) (past : List Tick) :
    upToReset past <:+ before isHalfOpen b past := by
  induction past with
  | nil => exact List.suffix_rfl
  | cons t past ih =>
    by_cases ht : t.act = .reset
    · have hm : isHalfOpen (play b (t :: past)).breaker = false := by
        rw [play, step_of_reset ht]
        rfl
      rw [before_of_neg hm]
      exact upToReset_suffix _
    · cases hm : isHalfOpen (play b (t :: past)).breaker with
      | false =>
        rw [before_of_neg hm]
        exact upToReset_suffix _
      | true =>
        rw [upToReset_cons_of_ne ht, before_cons_of_pos hm]
        exact ih

theorem Current.fresh (h : Current b past c) : Fresh b past c :=
  ⟨h.1, ahead_of_suffix (upToReset_suffix_before b past) h.2⟩

theorem Current.not_stale (h : Current b past c) : ¬Stale b past c := fun hs => hs.2 h.fresh.2

/-- A probe stays one of the present period as long as the period lasts. -/
theorem Current.cons (h : Current b past c) (hp : (play b (t :: past)).HasProbe c)
    (hm : (play b (t :: past)).breaker.mode = .halfOpen) : Current b (t :: past) c := by
  refine ⟨hp, ?_⟩
  rw [before_cons_of_pos (by simp [isHalfOpen, hm])]
  exact h.2

/-- A call that was still ahead is a probe of the present period once it is admitted as one. -/
theorem current_of_ahead (h : (play b past).phase c = .ahead)
    (hp : (play b (t :: past)).HasProbe c)
    (hm : (play b (t :: past)).breaker.mode = .halfOpen) : Current b (t :: past) c := by
  refine ⟨hp, ?_⟩
  rw [before_cons_of_pos (by simp [isHalfOpen, hm])]
  exact ahead_of_suffix (before_suffix _ b past) h

theorem fresh_cons_iff (ht : t.act ≠ .reset) :
    Fresh b (t :: past) c ↔
      (play b (t :: past)).HasProbe c ∧ (play b (upToReset past)).phase c = .ahead := by
  rw [Fresh, upToReset_cons_of_ne ht]

theorem not_fresh_of_reset (ht : t.act = .reset) : ¬Fresh b (t :: past) c := by
  rintro ⟨hp, ha⟩
  rw [upToReset_cons_of_eq ht, hp] at ha
  cases ha

/-! ## The slot is kept -/

/-- The slot is taken exactly while a fresh probe is out; there is one at most, and it belongs to
the present half-open period. -/
structure SlotKept (b : Breaker) (past : List Tick) : Prop where
  out : (play b past).breaker.probing = true → ∃ c, Fresh b past c
  taken : ∀ c, Fresh b past c → (play b past).breaker.probing = true
  current : ∀ c, Fresh b past c → Current b past c
  unique : ∀ c d, Fresh b past c → Fresh b past d → c = d

/-- Nothing happens to the slot, nor to the probes that matter. -/
theorem SlotKept.frame (h : SlotKept b past)
    (hf : ∀ c, Fresh b (t :: past) c ↔ Fresh b past c)
    (hp : (play b (t :: past)).breaker.probing = (play b past).breaker.probing)
    (hm : (play b past).breaker.mode = .halfOpen → (play b (t :: past)).breaker.mode = .halfOpen) :
    SlotKept b (t :: past) where
  out hs := by
    obtain ⟨c, hc⟩ := h.out (hp ▸ hs)
    exact ⟨c, (hf c).2 hc⟩
  taken c hc := by rw [hp]; exact h.taken c ((hf c).1 hc)
  current c hc := by
    have hc' := h.current c ((hf c).1 hc)
    exact hc'.cons hc.1 (hm hc'.mode)
  unique c d hc hd := h.unique c d ((hf c).1 hc) ((hf d).1 hd)

theorem SlotKept.of_empty (hp : (play b past).breaker.probing = false)
    (hf : ∀ c, ¬Fresh b past c) : SlotKept b past where
  out hs := by rw [hp] at hs; cases hs
  taken c hc := absurd hc (hf c)
  current c hc := absurd hc (hf c)
  unique c _ hc := absurd hc (hf c)

theorem SlotKept.of_single (hp : (play b past).breaker.probing = true) (hc : Current b past c)
    (hf : ∀ d, Fresh b past d → d = c) : SlotKept b past where
  out _ := ⟨c, hc.fresh⟩
  taken _ _ := hp
  current d hd := hf d hd ▸ hc
  unique d e hd he := (hf d hd).trans (hf e he).symm

/-- A tick that leaves the probes as they are leaves the fresh ones as they are. -/
theorem fresh_cons_congr (ht : t.act ≠ .reset)
    (h : ∀ c, (play b (t :: past)).HasProbe c ↔ (play b past).HasProbe c) (c : CallId) :
    Fresh b (t :: past) c ↔ Fresh b past c := by
  rw [fresh_cons_iff ht, h c, Fresh]

theorem hasProbe_update {s : Traffic} {br : Breaker} {p : Phase} (hp : p ≠ .running .probe)
    (hc : ¬s.HasProbe c) (d : CallId) :
    HasProbe ⟨br, update s.phase c p⟩ d ↔ s.HasProbe d := by
  by_cases hd : d = c
  · subst hd
    simp [HasProbe, hp, hc]
  · simp [HasProbe, hd]

theorem SlotKept.ended (h : SlotKept b past) (hi : ¬Interferes b past t) {a : Admission}
    (act : t.act.ending = some (c, o)) (phase : (play b past).phase c = .running a) :
    SlotKept b (t :: past) := by
  have hr : t.act ≠ .reset := by rintro ht; simp [ht, Act.ending] at act
  have hs : play b (t :: past) = _ := step_of_ending act phase
  cases a with
  | normal =>
    refine h.frame (fresh_cons_congr hr fun d => ?_) ?_ fun hm => ?_
    · rw [hs]
      exact hasProbe_update (by simp) (by simp [HasProbe, phase]) d
    · rw [hs]
      exact Breaker.settle_normal_probing
    · rw [hs, Breaker.settle_normal_of_ne (by simp [hm])]
      exact hm
  | probe =>
    have hp : (play b (t :: past)).breaker.probing = false := by
      rw [hs]
      exact Breaker.settle_probe_probing ..
    have hd : ∀ d, Fresh b (t :: past) d → d ≠ c ∧ Fresh b past d := by
      intro d hd
      obtain ⟨hd, ha⟩ := (fresh_cons_iff hr).1 hd
      have hne : d ≠ c := by rintro rfl; simp [HasProbe, hs] at hd
      exact ⟨hne, by simpa [HasProbe, hs, hne] using hd, ha⟩
    by_cases hf : (play b (upToReset past)).phase c = .ahead
    · -- The probe of this period gives its slot back.
      exact .of_empty hp fun d hd' => (hd d hd').1 (h.unique d c (hd d hd').2 ⟨phase, hf⟩)
    · have hst : Stale b past c := ⟨phase, hf⟩
      have free : (play b past).breaker.probing = false := by
        by_contra hp
        rw [Bool.not_eq_false] at hp
        obtain ⟨d, hd⟩ := h.out hp
        exact hi ⟨c, o, act, hst, .inl ⟨(h.current d hd).mode, .inl hp⟩⟩
      refine h.frame (fun d => ⟨fun hd' => (hd d hd').2, fun hd' => ?_⟩) (hp.trans free.symm)
        fun hm => ?_
      · have := h.taken d hd'
        simp [free] at this
      · have ho : o = .ignored := by
          by_contra ho
          exact hi ⟨c, o, act, hst, .inl ⟨hm, .inr ho⟩⟩
        rw [hs, ho]
        exact hm

theorem SlotKept.step (h : SlotKept b past) (hi : ¬Interferes b past t) :
    SlotKept b (t :: past) := by
  have hc := change (play b past) t
  generalize hs : (play b past).step t = s at hc
  have hs : play b (t :: past) = s := hs
  cases hc with
  | idle act _ =>
    exact h.frame (fresh_cons_congr act fun d => by rw [hs]) (by rw [hs]) (by rw [hs]; exact id)
  | refused c act phase _ | admitted c act phase _ =>
    refine h.frame (fresh_cons_congr (by simp [act]) fun d => ?_) (by rw [hs])
      (by rw [hs]; exact id)
    rw [hs]
    exact hasProbe_update (by simp) (by simp [HasProbe, phase]) d
  | probed c act phase may =>
    have hm : (play b (t :: past)).breaker.mode = .halfOpen := by rw [hs]
    have hcur := current_of_ahead phase (by simp [HasProbe, hs]) hm
    refine .of_single (by rw [hs]) hcur fun d hd => ?_
    by_contra hne
    obtain ⟨hd, ha⟩ := (fresh_cons_iff (by simp [act])).1 hd
    have hd : Fresh b past d := ⟨by simpa [HasProbe, hs, hne] using hd, ha⟩
    -- A fresh probe that is out would have kept the breaker from letting another one in.
    rcases may with ⟨ho, _⟩ | ⟨_, hp⟩
    · rw [(h.current d hd).mode] at ho
      cases ho
    · rw [h.taken d hd] at hp
      cases hp
  | ended c a o act phase => exact h.ended hi act phase
  | reset act =>
    exact .of_empty (by rw [hs]; rfl) fun d => not_fresh_of_reset act

theorem slotKept_nil {l : BreakerLimit} (hb : Breaker.new l = .ok b) : SlotKept b [] := by
  obtain ⟨_, _, rfl⟩ := Breaker.new_eq_ok_iff.1 hb
  exact .of_empty rfl fun c hc => by cases hc.1

theorem Undisturbed.slotKept {l : BreakerLimit} (hb : Breaker.new l = .ok b)
    (h : Undisturbed b past) : SlotKept b past := by
  induction past with
  | nil => exact slotKept_nil hb
  | cons t past ih => exact (ih h.tail).step h.head

/-! ## Histories without a reset -/

theorem upToReset_of_forall_ne (hr : ∀ t ∈ past, t.act ≠ .reset) : upToReset past = [] := by
  rw [upToReset, List.dropWhile_eq_nil_iff]
  simpa using hr

/-- Without a reset every probe that is out is fresh. -/
theorem fresh_iff_hasProbe (hr : ∀ t ∈ past, t.act ≠ .reset) :
    Fresh b past c ↔ (play b past).HasProbe c := by
  rw [Fresh, upToReset_of_forall_ne hr]
  simp [play]

theorem undisturbed_of_forall_ne (hr : ∀ t ∈ past, t.act ≠ .reset) : Undisturbed b past := by
  rintro t earlier hs ⟨c, o, _, hst, _⟩
  refine hst.2 ?_
  rw [upToReset_of_forall_ne fun u hu => hr u (hs.subset (List.mem_cons_of_mem t hu))]
  rfl

/-! ## The clock -/

theorem play_dated (hb : b.Dated) (past : List Tick) : (play b past).breaker.Dated := by
  induction past with
  | nil => exact hb
  | cons t past ih =>
    have hc := change (play b past) t
    rw [play]
    generalize (play b past).step t = s at hc ⊢
    cases hc with
    | idle | refused | admitted => exact ih
    | probed c _ _ may =>
      refine fun _ => ih ?_
      rcases may with ⟨hm, _⟩ | ⟨hm, _⟩ <;> simp [hm]
    | ended => exact ih.settle
    | reset => exact fun h => absurd rfl h

/-- While the breaker is half-open, some tick came after the window of the last failure. -/
theorem exists_after_window (hb : b.mode = .closed) (hr : ∀ t ∈ past, t.reading ≤ t.instant)
    (hm : (play b past).breaker.mode = .halfOpen) {last : Instant}
    (hl : (play b past).breaker.lastFailure = some last) :
    ∃ t ∈ past, last + b.limit.resetTimeout < t.instant := by
  induction past with
  | nil => rw [play, hb] at hm; cases hm
  | cons t past ih =>
    have earlier : (play b past).breaker.mode = .halfOpen →
        (play b past).breaker.lastFailure = some last →
        ∃ u ∈ t :: past, last + b.limit.resetTimeout < u.instant := fun hm hl => by
      obtain ⟨u, hu, h⟩ := ih (fun u hu => hr u (List.mem_cons_of_mem t hu)) hm hl
      exact ⟨u, List.mem_cons_of_mem t hu, h⟩
    have hc := change (play b past) t
    rw [play] at hm hl
    generalize (play b past).step t = s at hc hm hl
    cases hc with
    | idle | refused | admitted => exact earlier hm hl
    | probed c _ _ may =>
      rcases may with ⟨_, hw⟩ | ⟨hm, _⟩
      · have hl : (play b past).breaker.lastFailure = some last := hl
        rw [play_limit, Breaker.lt_sinceFailure_iff hl] at hw
        exact ⟨t, List.mem_cons_self, Nat.lt_of_lt_of_le hw (hr t List.mem_cons_self)⟩
      · exact earlier hm hl
    | ended c a o =>
      obtain ⟨hm, he⟩ := Breaker.halfOpen_of_settle hm
      exact earlier hm (he ▸ hl)
    | reset => cases hm

/-- A probe is admitted by the tick at which its call asks. -/
theorem probed_of_hasProbe {s : Traffic} (hn : ¬s.HasProbe c) (hp : (s.step t).HasProbe c) :
    t.act = .enter c ∧ s.phase c = .ahead ∧ s.breaker.MayProbe t.reading := by
  have hc := change s t
  generalize s.step t = s' at hc hp
  cases hc with
  | idle | reset => exact absurd hp hn
  | refused d | admitted d | ended d =>
    by_cases hd : c = d
    · subst hd; simp [HasProbe] at hp
    · exact absurd (by simpa [HasProbe, hd] using hp) hn
  | probed d act phase may =>
    by_cases hd : c = d
    · subst hd; exact ⟨act, phase, may⟩
    · exact absurd (by simpa [HasProbe, hd] using hp) hn

theorem Clocked.head_le {earlier : List Tick} (hc : Clocked (t :: earlier)) {u : Tick}
    (hu : u ∈ earlier) : u.instant ≤ t.instant :=
  (List.pairwise_cons.1 hc.1).1 u hu

theorem Clocked.suffix {earlier : List Tick} (hc : Clocked past) (hs : earlier <:+ past) :
    Clocked earlier :=
  ⟨hc.1.sublist hs.sublist, fun u hu => hc.2 u (hs.subset hu)⟩

/-- A probe is admitted only after the window of the last failure. -/
theorem after_window_of_mayProbe (hd : b.mode = .closed) (hc : Clocked (t :: past))
    (may : (play b past).breaker.MayProbe t.reading) :
    ∃ last, (play b past).breaker.lastFailure = some last ∧
      last + b.limit.resetTimeout < t.instant := by
  have hn : (play b past).breaker.mode ≠ .closed := by
    rcases may with ⟨hm, _⟩ | ⟨hm, _⟩ <;> simp [hm]
  obtain ⟨last, hl⟩ := Option.ne_none_iff_exists'.1 (play_dated (fun h => absurd hd h) past hn)
  refine ⟨last, hl, ?_⟩
  rcases may with ⟨_, hw⟩ | ⟨hm, _⟩
  · rw [play_limit, Breaker.lt_sinceFailure_iff hl] at hw
    exact Nat.lt_of_lt_of_le hw (hc.2 t List.mem_cons_self)
  · obtain ⟨u, hu, h⟩ :=
      exists_after_window hd (fun u hu => hc.2 u (List.mem_cons_of_mem t hu)) hm hl
    exact Nat.lt_of_lt_of_le h (hc.head_le hu)

/-- Without resets, the slot is taken exactly while one probe is out, and there are never two; a
probe is admitted only after the window of the last failure; its end or its drop frees the slot, so
a call that asks after the window while no probe is out is admitted. -/
theorem probing_iff_existsUnique_probe {l : BreakerLimit} (hb : Breaker.new l = .ok b)
    (hc : Clocked past) (hr : ∀ t ∈ past, t.act ≠ .reset) :
    ((play b past).breaker.probing = true ↔ ∃! c, (play b past).HasProbe c) ∧
    (∀ c d, (play b past).HasProbe c → (play b past).HasProbe d → c = d) ∧
    (∀ t earlier c, t :: earlier <:+ past →
      ¬(play b earlier).HasProbe c → (play b (t :: earlier)).HasProbe c →
      ∃ last, (play b earlier).breaker.lastFailure = some last ∧
        last + l.resetTimeout < t.instant) ∧
    (∀ t c o, (play b past).HasProbe c → t.act.ending = some (c, o) →
      (play b (t :: past)).breaker.probing = false ∧ ∀ d, ¬(play b (t :: past)).HasProbe d) ∧
    (∀ t c, t.act = .enter c → (play b past).phase c = .ahead →
      (play b past).breaker.mode ≠ .closed → (∀ d, ¬(play b past).HasProbe d) →
      (∀ last, (play b past).breaker.lastFailure = some last → last + l.resetTimeout < t.reading) →
      (play b (t :: past)).HasProbe c) := by
  have hk := (undisturbed_of_forall_ne hr).slotKept hb
  have hd := Breaker.closed_of_new hb
  have hu : ∀ c d, (play b past).HasProbe c → (play b past).HasProbe d → c = d := fun c d h h' =>
    hk.unique c d ((fresh_iff_hasProbe hr).2 h) ((fresh_iff_hasProbe hr).2 h')
  rw [← Breaker.limit_of_new hb]
  refine ⟨⟨fun hp => ?_, fun ⟨c, h, _⟩ => ?_⟩, hu, fun t earlier c hs hn hp => ?_,
    fun t c o hp act => ?_, fun t c act ha hm hn hw => ?_⟩
  · obtain ⟨c, h⟩ := hk.out hp
    exact ⟨c, h.1, fun d hd => hu d c hd h.1⟩
  · exact hk.taken c ((fresh_iff_hasProbe hr).2 h)
  · exact after_window_of_mayProbe hd (hc.suffix hs) (probed_of_hasProbe hn hp).2.2
  · rw [play, step_of_ending act hp]
    refine ⟨Breaker.settle_probe_probing .., fun d hd => ?_⟩
    by_cases hdc : d = c
    · subst hdc; simp [HasProbe] at hd
    · exact hdc (hu d c (by simpa [HasProbe, hdc] using hd) hp)
  · have may : (play b past).breaker.MayProbe t.reading := by
      cases hmode : (play b past).breaker.mode with
      | closed => exact absurd hmode hm
      | opened =>
        obtain ⟨last, hl⟩ :=
          Option.ne_none_iff_exists'.1 (play_dated (fun h => absurd hd h) past hm)
        refine .inl ⟨hmode, ?_⟩
        rw [play_limit, Breaker.lt_sinceFailure_iff hl]
        exact hw last hl
      | halfOpen =>
        refine .inr ⟨hmode, ?_⟩
        by_contra hp
        obtain ⟨d, hd⟩ := hk.out (by simpa using hp)
        exact hn d hd.1
    rw [play, step_of_enter act ha]
    generalize he : (play b past).breaker.enter t.reading = e
    have entry := he ▸ Breaker.entry (play b past).breaker t.reading
    cases entry with
    | refused _ shut => exact absurd may shut
    | admitted closed => exact absurd closed hm
    | probed => simp [HasProbe, Phase.ofAnswer]

/-- A call that asks after the window is the one probe, and the next one is refused. -/
theorem existsUnique_probe_after_window :
    let b : Breaker := ⟨⟨1, 10⟩, .closed, 0, none, false, 0, 0⟩
    let past : List Tick :=
      [⟨12, 12, .enter 2⟩, ⟨12, 11, .enter 1⟩, ⟨0, 0, .finish 0 .failure⟩, ⟨0, 0, .enter 0⟩]
    Breaker.new ⟨1, 10⟩ = .ok b ∧ Clocked past ∧ (∀ t ∈ past, t.act ≠ .reset) ∧
      (∃! c, (play b past).HasProbe c) ∧ (play b past).phase 2 = .done := by
  have hc : Clocked [⟨12, 12, .enter 2⟩, ⟨12, 11, .enter 1⟩, ⟨0, 0, .finish 0 .failure⟩,
      ⟨0, 0, .enter 0⟩] := ⟨by decide, by decide⟩
  exact ⟨rfl, hc, by decide,
    (probing_iff_existsUnique_probe (l := ⟨1, 10⟩) rfl hc (by decide)).1.1 rfl, rfl⟩

end Registrar.Traffic
