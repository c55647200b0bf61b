import SecsMagik.AtomicPrograms

/-! # Preconditions of programs

A program that runs alone is specified by what it keeps at every step and what holds when it ends.
Programs that may give up carry a state of their own, which survives the failure.
-/
namespace ProgramLogic

open AtomicPrograms

variable {Cmd World Env σ C α β : Type} {Reply : Cmd → Type}

/-! ## Weakest preconditions -/

section Wp

variable (M : Machine Reply World Env) (allows : World → Cmd → Env → Prop)
  (keeps : Event Cmd World Env → Prop)

/-- Under allowed environments every command is executed within `keeps`, and `post` holds at the
end. -/
def wp : Prog Reply α → (α → World → Prop) → World → Prop
  | .done a, post, w => post a w
  | .step c k, post, w => ∀ env, allows w c env →
      keeps ⟨env, w, c⟩ ∧ wp (k (M.exec env w c).1) post (M.exec env w c).2

variable {M allows keeps} {post post' : α → World → Prop} {w w' : World}

theorem wp_mono {p : Prog Reply α} (h : wp M allows keeps p post w)
    (hpost : ∀ a w, post a w → post' a w) : wp M allows keeps p post' w := by
  induction p generalizing w with
  | done a => exact hpost a w h
  | step c k ih =>
    intro env henv
    exact ⟨(h env henv).1, ih _ (h env henv).2⟩

theorem wp_bind {p : Prog Reply α} {f : α → Prog Reply β} {post : β → World → Prop} :
    wp M allows keeps (p >>= f) post w ↔
      wp M allows keeps p (fun a w => wp M allows keeps (f a) post w) w := by
  induction p generalizing w with
  | done a => exact Iff.rfl
  | step c k ih =>
    rw [Prog.step_bind]
    refine forall_congr' fun env => forall_congr' fun _ => and_congr_right fun _ => ?_
    exact ih _

/-- What is left of a program after some of its steps is specified by the same precondition. -/
theorem wp_follows {p q : Prog Reply α} {es : List (Event Cmd World Env)}
    (hfollows : M.Follows p es q) (hchained : M.Chained w es w')
    (hallowed : ∀ e ∈ es, allows e.before e.cmd e.env) (h : wp M allows keeps p post w) :
    (∀ e ∈ es, keeps e) ∧ wp M allows keeps q post w' := by
  induction hfollows generalizing w with
  | refl p =>
    cases hchained
    exact ⟨by simp, h⟩
  | @step env w₀ c k es q _ ih =>
    cases hchained with
    | cons hchained =>
      have hhead := h env (hallowed _ List.mem_cons_self)
      obtain ⟨hrest, hq⟩ :=
        ih hchained (fun e he => hallowed e (List.mem_cons_of_mem _ he)) hhead.2
      exact ⟨List.forall_mem_cons.mpr ⟨hhead.1, hrest⟩, hq⟩

end Wp

/-! ## Programs that may give up -/

/-- A program with a state of its own; a failure keeps the state. -/
def Act {Cmd : Type} (Reply : Cmd → Type) (σ α : Type) : Type := σ → Prog Reply (Option α × σ)

namespace Act

instance : Monad (Act Reply σ) where
  pure a := fun s => .done (some a, s)
  bind x f := fun s => x s >>= fun r => match r.1 with
    | none => .done (none, r.2)
    | some a => f a r.2

def fail : Act Reply σ α := fun s => .done (none, s)

def perform (c : Cmd) : Act Reply σ (Reply c) := fun s => Prog.step c fun r => .done (some r, s)

def read : Act Reply σ σ := fun s => .done (some s, s)

def write (s : σ) : Act Reply σ Unit := fun _ => .done (some (), s)

def require (b : Bool) : Act Reply σ Unit := if b then pure () else fail

def whenever (b : Bool) (x : Act Reply σ Unit) : Act Reply σ Unit := if b then x else pure ()

def expect : Option α → Act Reply σ α
  | none => fail
  | some a => pure a

/-- Go on after a failure, with the state it left. -/
def attempt (x : Act Reply σ α) : Act Reply σ (Option α) := fun s =>
  x s >>= fun r => .done (some r.1, r.2)

end Act

section Leads

variable (M : Machine Reply World Env) (allows : World → Cmd → Env → Prop)
  (keeps : Event Cmd World Env → Prop) (inv : σ → World → Prop)

/-- From `s` and `w` the program ends in `post`, or it gives up and leaves `inv`. -/
def Leads (x : Act Reply σ α) (post : α → σ → World → Prop) (s : σ) (w : World) : Prop :=
  wp M allows keeps (x s) (fun r w => r.1.elim (inv r.2 w) fun a => post a r.2 w) w

variable {M allows keeps inv} {s : σ} {w : World} {post post' : α → σ → World → Prop}

namespace Leads

theorem pure {a : α} (h : post a s w) : Leads M allows keeps inv (Pure.pure a) post s w := h

theorem fail (h : inv s w) : Leads M allows keeps inv Act.fail post s w := h

theorem bind {x : Act Reply σ α} {f : α → Act Reply σ β} {post : β → σ → World → Prop}
    (h : Leads M allows keeps inv x (fun a => Leads M allows keeps inv (f a) post) s w) :
    Leads M allows keeps inv (x >>= f) post s w := by
  refine wp_bind.mpr (wp_mono h fun r w hr => ?_)
  obtain ⟨_ | a, s'⟩ := r
  · exact hr
  · exact hr

theorem perform {c : Cmd} {post : Reply c → σ → World → Prop}
    (h : ∀ env, allows w c env →
      keeps ⟨env, w, c⟩ ∧ post (M.exec env w c).1 s (M.exec env w c).2) :
    Leads M allows keeps inv (Act.perform c) post s w := h

theorem read {post : σ → σ → World → Prop} (h : post s s w) :
    Leads M allows keeps inv Act.read post s w := h

theorem write {s' : σ} {post : Unit → σ → World → Prop} (h : post () s' w) :
    Leads M allows keeps inv (Act.write s') post s w := h

theorem require {b : Bool} {post : Unit → σ → World → Prop} (hinv : inv s w)
    (h : b = true → post () s w) : Leads M allows keeps inv (Act.require b) post s w := by
  cases b with
  | false => exact hinv
  | true => exact h rfl

theorem whenever {b : Bool} {x : Act Reply σ Unit} {post : Unit → σ → World → Prop}
    (htrue : b = true → Leads M allows keeps inv x post s w)
    (hfalse : b = false → post () s w) :
    Leads M allows keeps inv (Act.whenever b x) post s w := by
  cases b with
  | false => exact hfalse rfl
  | true => exact htrue rfl

theorem expect {o : Option α} (hinv : inv s w) (h : ∀ a, o = some a → post a s w) :
    Leads M allows keeps inv (Act.expect o) post s w := by
  cases o with
  | none => exact hinv
  | some a => exact h a rfl

theorem attempt {x : Act Reply σ α} {post : Option α → σ → World → Prop}
    (h : Leads M allows keeps inv x (fun a => post (some a)) s w)
    (hinv : ∀ s w, inv s w → post none s w) :
    Leads M allows keeps inv (Act.attempt x) post s w := by
  refine wp_bind.mpr (wp_mono h fun r w hr => ?_)
  obtain ⟨_ | a, s'⟩ := r
  · exact hinv s' w hr
  · exact hr

end Leads

end Leads

/-! ## Chains of events -/

section Related

variable {M : Machine Reply World Env} {R : World → World → Prop} {w w' : World}
  {es : List (Event Cmd World Env)}

/-- A preorder that every event respects relates all the worlds of a chain. -/
theorem related_of_chained (hrefl : ∀ w, R w w) (htrans : ∀ {a b c}, R a b → R b c → R a c)
    (h : M.Chained w es w') (hevent : ∀ e ∈ es, R e.before (M.after e)) :
    R w w' ∧ (∀ e ∈ es, R w e.before) ∧ (es.map M.after).Pairwise R := by
  induction h with
  | nil w => exact ⟨hrefl w, by simp, by simp⟩
  | @cons e es w' _ ih =>
    rw [List.forall_mem_cons] at hevent
    obtain ⟨hend, hbefore, hpairs⟩ := ih hevent.2
    refine ⟨htrans hevent.1 hend, List.forall_mem_cons.mpr ⟨hrefl _, ?_⟩, ?_⟩
    · intro e' he'
      exact htrans hevent.1 (hbefore e' he')
    · refine List.pairwise_cons.mpr ⟨?_, hpairs⟩
      intro later hlater
      obtain ⟨e', he', rfl⟩ := List.mem_map.mp hlater
      exact htrans (hbefore e' he') (hevent.2 e' he')

end Related

/-! ## Calls in turn -/

/-- A call that was started and how far it got: what is left of it and the world it left. -/
structure Turn {Cmd : Type} (Reply : Cmd → Type) (World Env C α : Type) where
  call : C
  start : World
  events : List (Event Cmd World Env)
  left : Prog Reply α
  world : World

/-- Calls run one after another; each may stop before its end. -/
inductive InTurn (M : Machine Reply World Env) (prog : C → Prog Reply α) :
    World → List (Turn Reply World Env C α) → Prop
  | nil (w) : InTurn M prog w []
  | cons {turn turns} : M.Follows (prog turn.call) turn.events turn.left →
      M.Chained turn.start turn.events turn.world → InTurn M prog turn.world turns →
      InTurn M prog turn.start (turn :: turns)

/-- A call that runs to its end under one environment. -/
def Turn.alone (M : Machine Reply World Env) (prog : C → Prog Reply α) (env : Env) (w : World)
    (c : C) : Turn Reply World Env C α where
  call := c
  start := w
  events := (M.run env w (prog c)).events
  left := .done (M.run env w (prog c)).result
  world := (M.run env w (prog c)).world

theorem inTurn_alone (M : Machine Reply World Env) (prog : C → Prog Reply α) (env : Env) (w : World)
    (c : C) : InTurn M prog w [Turn.alone M prog env w c] := by
  have h : InTurn M prog (Turn.alone M prog env w c).start [Turn.alone M prog env w c] :=
    .cons (Machine.run_follows env w (prog c)) (Machine.run_chained env w (prog c)) (.nil _)
  exact h

namespace InTurn

variable {M : Machine Reply World Env} {prog : C → Prog Reply α} {w : World}
  {turns : List (Turn Reply World Env C α)}

/-- What every call keeps and establishes, whatever world it finds, holds in every turn. -/
theorem holds {allows : C → World → Cmd → Env → Prop} {keeps : C → Event Cmd World Env → Prop}
    {post : C → α → World → Prop} (h : InTurn M prog w turns)
    (hcall : ∀ c w, wp M (allows c) (keeps c) (prog c) (post c) w)
    (hallowed : ∀ turn ∈ turns, ∀ e ∈ turn.events, allows turn.call e.before e.cmd e.env) :
    ∀ turn ∈ turns, (∀ e ∈ turn.events, keeps turn.call e) ∧
      ∀ a, turn.left = .done a → post turn.call a turn.world := by
  induction h with
  | nil w => simp
  | @cons turn turns hfollows hchained _ ih =>
    rw [List.forall_mem_cons] at hallowed ⊢
    obtain ⟨hkept, hleft⟩ :=
      wp_follows hfollows hchained hallowed.1 (hcall turn.call turn.start)
    refine ⟨⟨hkept, ?_⟩, ih hallowed.2⟩
    intro a ha
    rw [ha] at hleft
    exact hleft

theorem chained_turn (h : InTurn M prog w turns) :
    ∀ turn ∈ turns, M.Chained turn.start turn.events turn.world := by
  induction h with
  | nil w => simp
  | cons _ hchained _ ih => exact List.forall_mem_cons.mpr ⟨hchained, ih⟩

/-- Calls in turn are one chain of events. -/
theorem chained (h : InTurn M prog w turns) :
    ∃ w', M.Chained w (turns.flatMap Turn.events) w' := by
  induction h with
  | nil w => exact ⟨w, .nil w⟩
  | cons _ hchained _ ih =>
    obtain ⟨w', hw'⟩ := ih
    exact ⟨w', hchained.append hw'⟩

/-- A fact that does not hold at first holds at the start of a turn because an earlier turn brought
it about. -/
theorem exists_turn_before {P : World → Prop} {turn : Turn Reply World Env C α}
    {before after : List (Turn Reply World Env C α)}
    (h : InTurn M prog w (before ++ turn :: after)) (hw : ¬ P w) (hturn : P turn.start) :
    ∃ earlier ∈ before, ¬ P earlier.start ∧ P earlier.world := by
  induction before generalizing w with
  | nil =>
    cases h
    exact absurd hturn hw
  | cons first rest ih =>
    cases h with
    | cons _ _ h =>
      by_cases hfirst : P first.world
      · exact ⟨first, List.mem_cons_self, hw, hfirst⟩
      · obtain ⟨earlier, hmem, hearlier⟩ := ih h hfirst
        exact ⟨earlier, List.mem_cons_of_mem _ hmem, hearlier⟩

/-- What every turn preserves holds before and after each of them. -/
theorem invariant {J : World → Prop} (h : InTurn M prog w turns)
    (hturn : ∀ turn ∈ turns, J turn.start → J turn.world) (hw : J w) :
    ∀ turn ∈ turns, J turn.start ∧ J turn.world := by
  induction h with
  | nil w => simp
  | @cons turn turns _ _ _ ih =>
    rw [List.forall_mem_cons] at hturn ⊢
    have hworld := hturn.1 hw
    exact ⟨⟨hw, hworld⟩, ih hturn.2 hworld⟩

/-- Worlds that only grow in each turn grow from turn to turn. -/
theorem ordered {R : World → World → Prop} (hrefl : ∀ w, R w w)
    (htrans : ∀ {a b c}, R a b → R b c → R a c) (h : InTurn M prog w turns)
    (hturn : ∀ turn ∈ turns, R turn.start turn.world) :
    (∀ turn ∈ turns, R w turn.start) ∧ turns.Pairwise fun a b => R a.world b.start := by
  induction h with
  | nil w => simp
  | @cons turn turns _ _ _ ih =>
    rw [List.forall_mem_cons] at hturn
    obtain ⟨hlater, hpairs⟩ := ih hturn.2
    refine ⟨List.forall_mem_cons.mpr ⟨hrefl _, ?_⟩, List.pairwise_cons.mpr ⟨hlater, hpairs⟩⟩
    intro later hmem
    exact htrans hturn.1 (hlater later hmem)

end InTurn

end ProgramLogic
