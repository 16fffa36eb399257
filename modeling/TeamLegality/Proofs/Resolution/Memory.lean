import TeamLegality.Proofs.Resolution.Steps
import Mathlib.Logic.Relation

/-!
# Memory — what a session may remember

A session is sound when each table that it remembers is the table of its format, and when with a
format it remembers all that the format includes.  So the keys that a sound session remembers are
closed under active inclusion (`Sound.remembers_of_reaches`).  `Settled` is what may become of a
sound session while a format is being resolved.
-/

namespace TeamLegality

/-- Whether a session remembers a table under a key. -/
def Session.Remembers (s : Session) (key : String) : Prop := ∃ t, s.cache.get? key = some t

theorem Session.remembers_remember {s : Session} {key key' : String} {t : RuleTable} :
    (s.remember key t).Remembers key' ↔ s.Remembers key' ∨ key' = key := by
  unfold Session.Remembers
  rw [Session.cache_remember]
  by_cases h : key' = key <;> simp [Assoc.get?_insert, h]

namespace FormatRegistry

variable {r : FormatRegistry} {f g sub : Format} {t : RuleTable} {s s' s'' : Session}

/-! ### Sound sessions -/

/-- What a session remembers for a format is its table, and all that the format includes is
remembered with it. -/
def Sound (r : FormatRegistry) (s : Session) : Prop :=
  ∀ f t, r.Offers f → s.cache.get? f.key = some t →
    TableOf r f t ∧ ∀ sub, r.Includes f sub → s.Remembers sub.key

/-- A format is reached from another one through active inclusions. -/
abbrev Reaches (r : FormatRegistry) : Format → Format → Prop := Relation.ReflTransGen r.Includes

/-- How a session may change while a format is being resolved: it stays sound, loses nothing, and
what comes in belongs to what the format reaches. -/
structure Settled (r : FormatRegistry) (f : Format) (s s' : Session) : Prop where
  sound : r.Sound s'
  keeps : ∀ key t, s.cache.get? key = some t → s'.cache.get? key = some t
  reached : ∀ key, s'.Remembers key → s.Remembers key ∨ ∃ g, r.Reaches f g ∧ g.key = key

theorem Settled.refl (h : r.Sound s) : r.Settled f s s := ⟨h, fun _ _ => id, fun _ => .inl⟩

theorem Settled.trans (h : r.Settled f s s') (h' : r.Settled f s' s'') : r.Settled f s s'' := by
  refine ⟨h'.sound, fun key t hk => h'.keeps key t (h.keeps key t hk), fun key hk => ?_⟩
  rcases h'.reached key hk with hk | hk
  · exact h.reached key hk
  · exact .inr hk

theorem Settled.of_included (hi : r.Includes f sub) (h : r.Settled sub s s') :
    r.Settled f s s' := by
  refine ⟨h.sound, h.keeps, fun key hk => ?_⟩
  rcases h.reached key hk with hk | ⟨g, hg, hkey⟩
  · exact .inl hk
  · exact .inr ⟨g, hg.head hi, hkey⟩

theorem Settled.remembers (h : r.Settled f s s') {key : String} (hk : s.Remembers key) :
    s'.Remembers key :=
  hk.imp fun t ht => h.keeps key t ht

/-- A sound session that remembers a format remembers all that it reaches. -/
theorem Sound.remembers_of_reaches (hr : r.WellFormed) (hs : r.Sound s) (hf : r.Offers f)
    (hk : s.Remembers f.key) (h : r.Reaches f g) : s.Remembers g.key := by
  have hboth : r.Offers g ∧ s.Remembers g.key := by
    induction h with
    | refl => exact ⟨hf, hk⟩
    | tail _ hi ih =>
      obtain ⟨hg, t, ht⟩ := ih
      exact ⟨hi.offers hr, (hs _ t hg ht).2 _ hi⟩
  exact hboth.2

/-- Remembering the table of a format settles it. -/
theorem Settled.remember (hr : r.WellFormed) (hf : r.Offers f) (hs : r.Sound s)
    (ht : TableOf r f t) (hsub : ∀ sub, r.Includes f sub → s.Remembers sub.key) :
    r.Settled f s (s.remember f.key t) where
  sound := by
    intro g u hg hu
    rw [Session.cache_remember, Assoc.get?_insert] at hu
    split_ifs at hu with hkey
    · cases hu
      rcases hg.eq_of_key_eq hr hf hkey with rfl | ⟨hkg, hkf⟩
      · exact ⟨ht, fun sub hi => Session.remembers_remember.mpr (.inl (hsub sub hi))⟩
      · rw [ht.of_missing hr hf hkf]
        exact ⟨tableOf_missing hr hg hkg, fun sub hi => absurd hi (includes_of_missing hr hg hkg)⟩
    · obtain ⟨htable, hincl⟩ := hs g u hg hu
      exact ⟨htable, fun sub hi => Session.remembers_remember.mpr (.inl (hincl sub hi))⟩
  keeps := by
    intro key u hu
    rw [Session.cache_remember, Assoc.get?_insert]
    split_ifs with hkey
    · subst hkey
      rw [(hs f u hf hu).1.unique ht]
    · exact hu
  reached := by
    intro key hk
    rcases Session.remembers_remember.mp hk with hk | rfl
    · exact .inl hk
    · exact .inr ⟨f, .refl, rfl⟩

end FormatRegistry

end TeamLegality
