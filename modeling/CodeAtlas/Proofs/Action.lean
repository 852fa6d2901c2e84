import CodeAtlas.Action
import Mathlib.Tactic

/-!
# What actions do

`Spec pre x post exit` says what the action `x` does in the states with `pre`: it gives a result and
leaves a state that `post` relates, or it fails and leaves a state that `exit` relates to the failure.
What is recorded in the log does not matter.

Every way to build an action has its rule, so that each action is described once, and is known by that
description wherever it is used.
-/

namespace CodeAtlas.Action

variable {σ τ α β : Type}

/-- How an action ended: with a result, or with a failure. -/
def Ends (post : α → σ → Prop) (exit : Failure → σ → Prop) : Except Failure α × (σ × Log) → Prop
  | (.ok a, s) => post a s.1
  | (.error f, s) => exit f s.1

/-- What an action does in the states with a property. -/
def Spec (pre : σ → Prop) (x : Action σ α) (post : α → σ → Prop) (exit : Failure → σ → Prop) : Prop :=
  ∀ s, pre s.1 → Ends post exit (x s)

/-- An action that keeps a property, whether it fails or not. -/
abbrev Keeps (inv : σ → Prop) (x : Action σ α) : Prop :=
  Spec inv x (fun _ => inv) (fun _ => inv)

variable {pre pre' : σ → Prop} {post post' : α → σ → Prop} {exit exit' : Failure → σ → Prop}
  {x : Action σ α}

lemma Ends.mono {r : Except Failure α × (σ × Log)} (h : Ends post exit r)
    (hpost : ∀ a s, post a s → post' a s) (hexit : ∀ f s, exit f s → exit' f s) :
    Ends post' exit' r := by
  match r with
  | (.ok a, s) => exact hpost a s.1 h
  | (.error f, s) => exact hexit f s.1 h

/-! ### Using a description -/

/-- What is known after a result. -/
theorem Spec.result (h : Spec pre x post exit) {s s' : σ × Log} {a : α} (hs : pre s.1)
    (hx : x s = (.ok a, s')) : post a s'.1 := by
  have hend := h s hs
  rw [hx] at hend
  exact hend

/-- What is known after a failure. -/
theorem Spec.failure (h : Spec pre x post exit) {s s' : σ × Log} {f : Failure} (hs : pre s.1)
    (hx : x s = (.error f, s')) : exit f s'.1 := by
  have hend := h s hs
  rw [hx] at hend
  exact hend

/-- An action that cannot fail gives a result. -/
theorem Spec.exists_result (h : Spec pre x post fun _ _ => False) {s : σ × Log} (hs : pre s.1) :
    ∃ a s', x s = (.ok a, s') ∧ post a s'.1 := by
  have hend := h s hs
  match hx : x s with
  | (.ok a, s') => rw [hx] at hend; exact ⟨a, s', rfl, hend⟩
  | (.error f, s') => rw [hx] at hend; exact hend.elim

/-- A run that is known to give a result. -/
lemma exists_ok_of_isOk {r : Except Failure α × (σ × Log)} (h : r.1.isOk = true) :
    ∃ a, r = (.ok a, r.2) := by
  match r with
  | (.ok a, s) => exact ⟨a, rfl⟩
  | (.error f, s) => cases h

lemma exists_ok_of_toOption_map {x : Except Failure α} {f : α → β} {b : β}
    (h : x.toOption.map f = some b) : ∃ a, x = .ok a ∧ f a = b := by
  match x with
  | .ok a => exact ⟨a, rfl, Option.some.inj h⟩
  | .error e => cases h

/-- A state on which both outcomes agree. -/
theorem Spec.state {inv : σ → Prop} (h : Spec pre x (fun _ => inv) fun _ => inv) {s : σ × Log}
    (hs : pre s.1) : inv (x s).2.1 := by
  have hend := h s hs
  match hx : x s with
  | (.ok a, s') => rw [hx] at hend; exact hend
  | (.error f, s') => rw [hx] at hend; exact hend

theorem Spec.weaken (h : Spec pre x post exit) (hpre : ∀ s, pre' s → pre s)
    (hpost : ∀ a s, post a s → post' a s) (hexit : ∀ f s, exit f s → exit' f s) :
    Spec pre' x post' exit' :=
  fun s hs => (h s (hpre s.1 hs)).mono hpost hexit

/-- Two descriptions of an action are one. -/
theorem Spec.and (h : Spec pre x post exit) (h' : Spec pre' x post' exit') :
    Spec (fun s => pre s ∧ pre' s) x (fun a s => post a s ∧ post' a s)
      (fun f s => exit f s ∧ exit' f s) := by
  rintro s ⟨hs, hs'⟩
  have hend := h s hs
  have hend' := h' s hs'
  match hx : x s with
  | (.ok a, t) => rw [hx] at hend hend'; exact ⟨hend, hend'⟩
  | (.error f, t) => rw [hx] at hend hend'; exact ⟨hend, hend'⟩

/-- It is enough to look at one state at a time. -/
theorem Spec.at_each (h : ∀ s, pre s → Spec (· = s) x post exit) : Spec pre x post exit :=
  fun s hs => h s.1 hs s rfl

/-- Every action does something. -/
theorem Spec.trivial : Spec (fun _ => True) x (fun _ _ => True) (fun _ _ => True) := by
  intro s _
  match x s with
  | (.ok a, s') => exact True.intro
  | (.error f, s') => exact True.intro

/-- A state may come with something that is not part of it. -/
theorem Spec.of_exists {ι : Type} {pre : ι → σ → Prop} (h : ∀ i, Spec (pre i) x post exit) :
    Spec (fun s => ∃ i, pre i s) x post exit := by
  rintro s ⟨i, hi⟩
  exact h i s hi

/-- A state may come with a fact about something else. -/
theorem Spec.of_fact {p : Prop} (h : p → Spec pre x post exit) :
    Spec (fun s => p ∧ pre s) x post exit := by
  rintro s ⟨hp, hs⟩
  exact h hp s hs

/-! ### Simple actions -/

theorem Spec.pure {a : α} (h : ∀ s, pre s → post a s) :
    Spec pre (Pure.pure a : Action σ α) post exit :=
  fun s hs => h s.1 hs

theorem Spec.fail {f : Failure} (h : ∀ s, pre s → exit f s) :
    Spec pre (Action.fail f : Action σ α) post exit :=
  fun s hs => h s.1 hs

theorem Spec.modify {f : σ → σ} {post : Unit → σ → Prop} (h : ∀ s, pre s → post () (f s)) :
    Spec pre (Action.modify f) post exit :=
  fun s hs => h s.1 hs

theorem Spec.record {e : Event} : Spec pre (Action.record e) (fun _ => pre) exit :=
  fun _ hs => hs

theorem Spec.recordAll {es : Log} : Spec pre (Action.recordAll es) (fun _ => pre) exit :=
  fun _ hs => hs

theorem Spec.ofExcept {r : Except Failure α} (hok : ∀ a, r = .ok a → ∀ s, pre s → post a s)
    (herror : ∀ f, r = .error f → ∀ s, pre s → exit f s) :
    Spec pre (Action.ofExcept r) post exit := by
  match r with
  | .ok a => exact Spec.pure (hok a rfl)
  | .error f => exact Spec.fail (herror f rfl)

/-! ### Combinations -/

theorem Spec.bind {f : α → Action σ β} {m : α → σ → Prop} {post : β → σ → Prop}
    (hx : Spec pre x m exit) (hf : ∀ a, Spec (m a) (f a) post exit) :
    Spec pre (x >>= f) post exit := by
  intro s hs
  have hend := hx s hs
  show Ends post exit (andThen x f s)
  unfold andThen
  match hxs : x s with
  | (.ok a, s') => rw [hxs] at hend; exact hf a s' hend
  | (.error e, s') => rw [hxs] at hend; exact hend

/-- An action that looks at the state first. -/
theorem Spec.get_bind {f : σ → Action σ β} {post : β → σ → Prop}
    (h : ∀ s, pre s → Spec (· = s) (f s) post exit) : Spec pre (Action.get >>= f) post exit :=
  fun s hs => h s.1 hs s rfl

/-- What a rescued action left when it failed, `m`, is where its handler begins. -/
theorem Spec.rescue {handler : Failure → Action σ α} {m : Failure → σ → Prop}
    (hx : Spec pre x post m)
    (hstop : ∀ f, isInterruption f = true → ∀ s, m f s → exit f s)
    (hhandler : ∀ f, isInterruption f = false → Spec (m f) (handler f) post exit) :
    Spec pre (Action.rescue x handler) post exit := by
  intro s hs
  have hend := hx s hs
  unfold Action.rescue
  match hxs : x s with
  | (.ok a, s') => rw [hxs] at hend; exact hend
  | (.error f, s') =>
    rw [hxs] at hend
    by_cases hf : isInterruption f = true
    · simp only [hf, if_true]
      exact hstop f hf s'.1 hend
    · simp only [hf]
      exact hhandler f (by simpa using hf) s' hend

theorem Spec.attempt {post' : Except Failure α → σ → Prop} (hx : Spec pre x post exit)
    (hok : ∀ a s, post a s → post' (.ok a) s) (herror : ∀ f s, exit f s → post' (.error f) s) :
    Spec pre (Action.attempt x) post' exit' := by
  intro s hs
  have hend := hx s hs
  unfold Action.attempt
  match hxs : x s with
  | (.ok a, s') => rw [hxs] at hend; exact hok a s'.1 hend
  | (.error f, s') => rw [hxs] at hend; exact herror f s'.1 hend

/-- An action on a part of the state: `frame` is what the rest of the state keeps. -/
theorem Spec.within {part : σ → τ} {update : σ → τ → σ} {pre : τ → Prop} {x : Action τ α}
    {post : α → τ → Prop} {exit : Failure → τ → Prop} {frame : σ → Prop}
    (hpart : ∀ s t, part (update s t) = t) (hframe : ∀ s t, frame s → frame (update s t))
    (hx : Spec pre x post exit) :
    Spec (fun s => frame s ∧ pre (part s)) (Action.within part update x)
      (fun a s => frame s ∧ post a (part s)) (fun f s => frame s ∧ exit f (part s)) := by
  rintro s ⟨hs, hpre⟩
  have hend := hx (part s.1, s.2) hpre
  unfold Action.within
  match hxs : x (part s.1, s.2) with
  | (.ok a, (t, log)) =>
    rw [hxs] at hend
    exact ⟨hframe s.1 t hs, (hpart s.1 t).symm ▸ hend⟩
  | (.error f, (t, log)) =>
    rw [hxs] at hend
    exact ⟨hframe s.1 t hs, (hpart s.1 t).symm ▸ hend⟩

/-- A loop, by what holds before the items that are left. -/
theorem Spec.forEach {f : α → Action σ Unit} {inv : List α → σ → Prop}
    (hf : ∀ a as, Spec (inv (a :: as)) (f a) (fun _ => inv as) exit) (as : List α) :
    Spec (inv as) (Action.forEach f as) (fun _ => inv []) exit := by
  induction as with
  | nil => exact Spec.pure fun _ h => h
  | cons a as ih => exact Spec.bind (hf a as) fun _ => ih

/-- What every step of a loop keeps is kept by the loop. -/
theorem Keeps.forEach {f : α → Action σ Unit} {inv : σ → Prop} (hf : ∀ a, Keeps inv (f a))
    (as : List α) : Keeps inv (Action.forEach f as) := by
  induction as with
  | nil => exact Spec.pure fun _ h => h
  | cons a as ih => exact Spec.bind (hf a) fun _ => ih

/-- An action that is over when it fails keeps what it kept before. -/
theorem Keeps.attempt {inv : σ → Prop} (h : Keeps inv x) :
    Keeps inv (do let _ ← Action.attempt x : Action σ Unit) :=
  Spec.bind (m := fun _ => inv) (Spec.attempt h (fun _ _ h => h) fun _ _ h => h)
    fun _ => Spec.pure fun _ h => h

end CodeAtlas.Action
