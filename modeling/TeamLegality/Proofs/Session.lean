import TeamLegality.Session

/-!
# Session logic — what a computation comes to, whether it succeeds or fails

A computation in a session ends in a value or in a failure, and leaves a session either way.
`Leads x s Q E` gives a condition for each of the two ends.  `Tracks R x y` compares two sessions:
whenever `x` succeeds in the one, `y` succeeds with the same value in the other.  Rules follow for
every way in which computations are put together.
-/

namespace TeamLegality.SessionM

variable {α β ι : Type}

/-- From `s`, `x` ends in a value with `Q` or in a failure with `E`. -/
structure Leads (x : SessionM α) (s : Session) (Q : α → Session → Prop)
    (E : Failure → Session → Prop) : Prop where
  of_ok : ∀ {a s'}, x.run.run s = (.ok a, s') → Q a s'
  of_error : ∀ {e s'}, x.run.run s = (.error e, s') → E e s'

/-- Whenever `x` succeeds, `y` succeeds with the same value in a related session. -/
def Tracks (R : Session → Session → Prop) (x y : SessionM α) : Prop :=
  ∀ s t, R s t → ∀ a s', x.run.run s = (.ok a, s') → ∃ t', y.run.run t = (.ok a, t') ∧ R s' t'

/-! ### Runs -/

theorem run_bind (x : SessionM α) (f : α → SessionM β) (s : Session) :
    (x >>= f).run.run s = match x.run.run s with
      | (.ok a, s') => (f a).run.run s'
      | (.error e, s') => (.error e, s') := by
  rw [ExceptT.run_bind, StateT.run_bind]
  rcases x.run.run s with ⟨_ | _, s'⟩ <;> rfl

/-- A sequence succeeds when both of its parts do. -/
theorem run_bind_ok {x : SessionM α} {f : α → SessionM β} {s s' : Session} {b : β} :
    (x >>= f).run.run s = (.ok b, s') ↔
      ∃ a s₁, x.run.run s = (.ok a, s₁) ∧ (f a).run.run s₁ = (.ok b, s') := by
  rw [run_bind]
  rcases x.run.run s with ⟨e | a, s₁⟩
  · refine ⟨fun h => ?_, fun ⟨a, s₂, h, _⟩ => ?_⟩ <;> cases h
  · refine ⟨fun h => ⟨a, s₁, rfl, h⟩, fun ⟨a', s₂, h, h'⟩ => ?_⟩
    cases h
    exact h'

/-- A handler that only renames failures leaves the session alone. -/
theorem run_tryCatch (x : SessionM α) (g : Failure → Failure) (s : Session) :
    (tryCatchThe Failure x fun e => throw (g e)).run.run s = match x.run.run s with
      | (.ok a, s') => (.ok a, s')
      | (.error e, s') => (.error (g e), s') := by
  change (tryCatch x fun e => throw (g e)).run.run s = _
  rw [ExceptT.run_tryCatch, StateT.run_bind]
  rcases x.run.run s with ⟨_ | _, s'⟩ <;> rfl

/-! ### Both ends of one computation -/

section Leads

variable {x : SessionM α} {f : α → SessionM β} {s : Session} {Q Q' : α → Session → Prop}
  {E E' : Failure → Session → Prop}

/-- A condition that holds at either end holds in the session that is left. -/
theorem Leads.session {P : Session → Prop} (h : Leads x s (fun _ => P) fun _ => P) :
    P (x.run.run s).2 := by
  rcases hx : x.run.run s with ⟨e | a, s'⟩
  · exact h.of_error hx
  · exact h.of_ok hx

theorem Leads.mono (h : Leads x s Q E) (hQ : ∀ a s', Q a s' → Q' a s')
    (hE : ∀ e s', E e s' → E' e s') : Leads x s Q' E' where
  of_ok hx := hQ _ _ (h.of_ok hx)
  of_error hx := hE _ _ (h.of_error hx)

theorem Leads.and (h : Leads x s Q E) (h' : Leads x s Q' E') :
    Leads x s (fun a s' => Q a s' ∧ Q' a s') fun e s' => E e s' ∧ E' e s' where
  of_ok hx := ⟨h.of_ok hx, h'.of_ok hx⟩
  of_error hx := ⟨h.of_error hx, h'.of_error hx⟩

theorem leads_of_run_ok {a : α} {s' : Session} (hx : x.run.run s = (.ok a, s')) (h : Q a s') :
    Leads x s Q E where
  of_ok hx' := by
    rw [hx] at hx'
    cases hx'
    exact h
  of_error hx' := by
    rw [hx] at hx'
    cases hx'

theorem leads_of_run_error {e : Failure} {s' : Session} (hx : x.run.run s = (.error e, s'))
    (h : E e s') : Leads x s Q E where
  of_ok hx' := by
    rw [hx] at hx'
    cases hx'
  of_error hx' := by
    rw [hx] at hx'
    cases hx'
    exact h

theorem leads_pure {a : α} (h : Q a s) : Leads (pure a) s Q E := leads_of_run_ok rfl h

theorem leads_throw {e : Failure} (h : E e s) : Leads (throw e) s Q E := leads_of_run_error rfl h

theorem leads_modify {g : Session → Session} {Q : PUnit → Session → Prop} (h : Q ⟨⟩ (g s)) :
    Leads (modify g : SessionM PUnit) s Q E := leads_of_run_ok rfl h

theorem leads_bind {Q : β → Session → Prop} (h : Leads x s (fun a s' => Leads (f a) s' Q E) E) :
    Leads (x >>= f) s Q E := by
  rcases hx : x.run.run s with ⟨e | a, s'⟩
  · exact leads_of_run_error (by rw [run_bind, hx]) (h.of_error hx)
  · have hf := h.of_ok hx
    have hrun : (x >>= f).run.run s = (f a).run.run s' := by rw [run_bind, hx]
    exact ⟨fun hb => hf.of_ok (hrun ▸ hb), fun hb => hf.of_error (hrun ▸ hb)⟩

/-- An invariant that knows which part of the list is done. -/
theorem leads_foldlM {g : α → ι → SessionM α} {l : List ι} (I : List ι → α → Session → Prop)
    (step : ∀ done i rest a s, l = done ++ i :: rest → I done a s →
      Leads (g a i) s (I (done ++ [i])) E) :
    ∀ rest done a s, l = done ++ rest → I done a s → Leads (rest.foldlM g a) s (I l) E
  | [], done, a, s, hl, hI => by
    rw [List.append_nil] at hl
    rw [List.foldlM_nil, hl]
    exact leads_pure hI
  | i :: rest, done, a, s, hl, hI => by
    rw [List.foldlM_cons]
    refine leads_bind ((step done i rest a s hl hI).mono (fun a' s' h => ?_) fun _ _ h => h)
    exact leads_foldlM I step rest (done ++ [i]) a' s' (by simp [hl]) h

end Leads

/-! ### One computation in two sessions -/

section Tracks

variable {R : Session → Session → Prop} {x y : SessionM α} {f g : α → SessionM β}

theorem tracks_pure (a : α) : Tracks R (pure a : SessionM α) (pure a) := by
  rintro s t hR b s' h
  cases h
  exact ⟨t, rfl, hR⟩

theorem tracks_throw (e : Failure) : Tracks R (throw e : SessionM α) y := by
  rintro s t hR b s' h
  cases h

theorem tracks_bind (hx : Tracks R x y) (hf : ∀ a, Tracks R (f a) (g a)) :
    Tracks R (x >>= f) (y >>= g) := by
  intro s t hR b s' h
  obtain ⟨a, s₁, h₁, h₂⟩ := run_bind_ok.mp h
  obtain ⟨t₁, ht₁, hR₁⟩ := hx s t hR a s₁ h₁
  obtain ⟨t', ht', hR'⟩ := hf a s₁ t₁ hR₁ b s' h₂
  exact ⟨t', run_bind_ok.mpr ⟨a, t₁, ht₁, ht'⟩, hR'⟩

theorem tracks_foldlM {f g : α → ι → SessionM α} (h : ∀ a i, Tracks R (f a i) (g a i)) :
    ∀ (l : List ι) (a : α), Tracks R (l.foldlM f a) (l.foldlM g a)
  | [], a => by
    simp only [List.foldlM_nil]
    exact tracks_pure a
  | i :: l, a => by
    simp only [List.foldlM_cons]
    exact tracks_bind (h a i) fun a' => tracks_foldlM h l a'

end Tracks

end TeamLegality.SessionM
