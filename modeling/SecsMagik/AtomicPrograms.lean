import Mathlib.Data.List.Basic
import Mathlib.Data.List.Induction
import Mathlib.Logic.Function.Basic

/-! # Programs of atomic commands

A program issues one command at a time and continues with the reply. A machine says what one
command does to the shared world under an environment (clock, faults, answers from outside).
Threads interleave between commands; a call that runs alone is the special case of one thread.
-/
namespace AtomicPrograms

/-- A program over commands `c : Cmd` whose replies have type `Reply c`. -/
inductive Prog {Cmd : Type} (Reply : Cmd → Type) (α : Type) where
  | done (a : α)
  | step (c : Cmd) (k : Reply c → Prog Reply α)

variable {Cmd World Env T C : Type} {Reply : Cmd → Type} {α β : Type}

namespace Prog

def bind : Prog Reply α → (α → Prog Reply β) → Prog Reply β
  | done a, f => f a
  | step c k, f => step c fun r => (k r).bind f

instance : Monad (Prog Reply) where
  pure := done
  bind := bind

def perform (c : Cmd) : Prog Reply (Reply c) := step c done

/-- What a program that has ended returned. -/
def value? : Prog Reply α → Option α
  | done a => some a
  | step _ _ => none

theorem value?_eq_some {p : Prog Reply α} {a : α} : p.value? = some a ↔ p = done a := by
  cases p <;> simp [value?]

@[simp] theorem done_bind (a : α) (f : α → Prog Reply β) : (done a >>= f) = f a := rfl

@[simp] theorem pure_eq_done (a : α) : (pure a : Prog Reply α) = done a := rfl

@[simp] theorem step_bind (c : Cmd) (k : Reply c → Prog Reply α) (f : α → Prog Reply β) :
    (step c k >>= f) = step c fun r => k r >>= f := rfl

@[simp] theorem perform_bind (c : Cmd) (f : Reply c → Prog Reply β) :
    (perform c >>= f) = step c f := rfl

/-- Whatever the replies, the program issues commands in `ok` only. -/
def Only (ok : Cmd → Prop) : Prog Reply α → Prop
  | done _ => True
  | step c k => ok c ∧ ∀ r, (k r).Only ok

@[simp] theorem only_done (ok : Cmd → Prop) (a : α) : (done a : Prog Reply α).Only ok := trivial

theorem only_perform {ok : Cmd → Prop} {c : Cmd} (h : ok c) : (perform c : Prog Reply _).Only ok :=
  ⟨h, fun _ => trivial⟩

theorem Only.bind {ok : Cmd → Prop} {p : Prog Reply α} {f : α → Prog Reply β}
    (hp : p.Only ok) (hf : ∀ a, (f a).Only ok) : (p >>= f).Only ok := by
  induction p with
  | done a => exact hf a
  | step c k ih => exact ⟨hp.1, fun r => ih r (hp.2 r)⟩

theorem Only.mono {ok ok' : Cmd → Prop} {p : Prog Reply α} (hp : p.Only ok)
    (h : ∀ c, ok c → ok' c) : p.Only ok' := by
  induction p with
  | done a => trivial
  | step c k ih => exact ⟨h c hp.1, fun r => ih r (hp.2 r)⟩

/-- Whatever the replies, the program can only finish with a result in `Q`. -/
def Returns (Q : α → Prop) : Prog Reply α → Prop
  | done a => Q a
  | step _ k => ∀ r, (k r).Returns Q

theorem Returns.bind {Q : β → Prop} {p : Prog Reply α} {f : α → Prog Reply β}
    (hf : ∀ a, (f a).Returns Q) : (p >>= f).Returns Q := by
  induction p with
  | done a => exact hf a
  | step c k ih => exact fun r => ih r

theorem Returns.bind_of {P : α → Prop} {Q : β → Prop} {p : Prog Reply α} {f : α → Prog Reply β}
    (hp : p.Returns P) (hf : ∀ a, P a → (f a).Returns Q) : (p >>= f).Returns Q := by
  induction p with
  | done a => exact hf a hp
  | step c k ih => exact fun r => ih r (hp r)

end Prog

/-- How one command changes the world; the environment is chosen anew for every step. -/
structure Machine {Cmd : Type} (Reply : Cmd → Type) (World Env : Type) where
  exec : Env → World → (c : Cmd) → Reply c × World

/-- One executed command with the world it found. -/
structure Event (Cmd World Env : Type) where
  env : Env
  before : World
  cmd : Cmd

namespace Machine

variable (M : Machine Reply World Env)

def after (e : Event Cmd World Env) : World := (M.exec e.env e.before e.cmd).2

/-- `p` can execute exactly the events `es`, whatever others did to the world in between, and
is then left with `q`. -/
inductive Follows : Prog Reply α → List (Event Cmd World Env) → Prog Reply α → Prop
  | refl (p) : Follows p [] p
  | step {env w c k es q} : Follows (k (M.exec env w c).1) es q →
      Follows (.step c k) (⟨env, w, c⟩ :: es) q

/-- Consecutive events see the world their predecessor left. -/
inductive Chained : World → List (Event Cmd World Env) → World → Prop
  | nil (w) : Chained w [] w
  | cons {e es w'} : Chained (M.after e) es w' → Chained e.before (e :: es) w'

variable {M}

theorem Follows.done_inv {a : α} {es : List (Event Cmd World Env)} {q : Prog Reply α}
    (h : M.Follows (.done a) es q) : es = [] ∧ q = .done a := by
  cases h
  exact ⟨rfl, rfl⟩

theorem Follows.snoc {p : Prog Reply α} {es : List (Event Cmd World Env)} {c : Cmd}
    {k : Reply c → Prog Reply α} (h : M.Follows p es (.step c k)) (env : Env) (w : World) :
    M.Follows p (es ++ [⟨env, w, c⟩]) (k (M.exec env w c).1) := by
  generalize hq : Prog.step c k = q at h
  induction h with
  | refl p => subst hq; exact .step (.refl _)
  | step _ ih => exact .step (ih hq)

/-- A run of `p >>= f` is a run of `p`, followed by a run of `f` once `p` has finished. -/
theorem Follows.bind_inv {p : Prog Reply α} {f : α → Prog Reply β}
    {es : List (Event Cmd World Env)} {q : Prog Reply β} (h : M.Follows (p >>= f) es q) :
    (∃ p', M.Follows p es p' ∧ q = p' >>= f) ∨
      ∃ a es₁ es₂, es = es₁ ++ es₂ ∧ M.Follows p es₁ (.done a) ∧ M.Follows (f a) es₂ q := by
  induction p generalizing es with
  | done a => exact .inr ⟨a, [], es, rfl, .refl _, h⟩
  | step c k ih =>
    rw [Prog.step_bind] at h
    cases h with
    | refl => exact .inl ⟨_, .refl _, rfl⟩
    | @step env w _ _ es _ h =>
      rcases ih _ h with ⟨p', hp', rfl⟩ | ⟨a, es₁, es₂, rfl, h₁, h₂⟩
      · exact .inl ⟨p', .step hp', rfl⟩
      · exact .inr ⟨a, _ :: es₁, es₂, rfl, .step h₁, h₂⟩

theorem Follows.bind_done {p : Prog Reply α} {f : α → Prog Reply β}
    {es : List (Event Cmd World Env)} {b : β} (h : M.Follows (p >>= f) es (.done b)) :
    ∃ a es₁ es₂, es = es₁ ++ es₂ ∧ M.Follows p es₁ (.done a) ∧ M.Follows (f a) es₂ (.done b) := by
  rcases h.bind_inv with ⟨p', hp', hq⟩ | hdone
  · cases p' with
    | done a => exact ⟨a, es, [], by simp, hp', by rw [hq]; exact .refl _⟩
    | step c k => cases hq
  · exact hdone

theorem Follows.step_done {c : Cmd} {k : Reply c → Prog Reply α}
    {es : List (Event Cmd World Env)} {a : α} (h : M.Follows (.step c k) es (.done a)) :
    ∃ env w es', es = ⟨env, w, c⟩ :: es' ∧ M.Follows (k (M.exec env w c).1) es' (.done a) := by
  cases h with
  | step h => exact ⟨_, _, _, rfl, h⟩

theorem Follows.only {ok : Cmd → Prop} {p q : Prog Reply α}
    {es : List (Event Cmd World Env)} (h : M.Follows p es q) (hp : p.Only ok) :
    ∀ e ∈ es, ok e.cmd := by
  induction h with
  | refl p => simp
  | step _ ih =>
    intro e he
    rcases List.mem_cons.mp he with rfl | he
    · exact hp.1
    · exact ih (hp.2 _) e he

theorem Follows.returns {Q : α → Prop} {p : Prog Reply α} {es : List (Event Cmd World Env)} {a : α}
    (h : M.Follows p es (.done a)) (hp : p.Returns Q) : Q a := by
  induction p generalizing es with
  | done b =>
    cases h.done_inv.2
    exact hp
  | step c k ih =>
    obtain ⟨env, w, es', -, hk⟩ := h.step_done
    exact ih _ hk (hp _)

/-- A command that `p` never issues can only come from what follows a finished run of `p`. -/
theorem Follows.bind_of_mem {ok : Cmd → Prop} {p : Prog Reply α} {f : α → Prog Reply β}
    {es : List (Event Cmd World Env)} {q : Prog Reply β} (h : M.Follows (p >>= f) es q)
    (hp : p.Only ok) {e : Event Cmd World Env} (he : e ∈ es) (hcmd : ¬ ok e.cmd) :
    ∃ a es₁ es₂, es = es₁ ++ es₂ ∧ M.Follows p es₁ (.done a) ∧ M.Follows (f a) es₂ q ∧
      e ∈ es₂ := by
  rcases h.bind_inv with ⟨p', hp', -⟩ | ⟨a, es₁, es₂, rfl, h₁, h₂⟩
  · exact absurd (hp'.only hp e he) hcmd
  · refine ⟨a, es₁, es₂, rfl, h₁, h₂, ?_⟩
    rcases List.mem_append.mp he with he | he
    · exact absurd (h₁.only hp e he) hcmd
    · exact he

/-- A program whose result is only looked at has the traces it has anyway. -/
theorem Follows.of_bind_done {p : Prog Reply α} {f : α → β} {es : List (Event Cmd World Env)}
    {q : Prog Reply β} (h : M.Follows (p >>= fun a => .done (f a)) es q) :
    ∃ q', M.Follows p es q' := by
  rcases h.bind_inv with ⟨p', hp', -⟩ | ⟨a, es₁, es₂, rfl, h₁, h₂⟩
  · exact ⟨p', hp'⟩
  · obtain ⟨rfl, -⟩ := h₂.done_inv
    exact ⟨_, by simpa using h₁⟩

theorem Follows.of_bind_const {p : Prog Reply α} {b : β} {es : List (Event Cmd World Env)}
    {q : Prog Reply β} (h : M.Follows (p >>= fun _ => .done b) es q) :
    ∃ q', M.Follows p es q' := h.of_bind_done

theorem Chained.append {w w' w'' : World} {es fs : List (Event Cmd World Env)}
    (h : M.Chained w es w') (h' : M.Chained w' fs w'') : M.Chained w (es ++ fs) w'' := by
  induction h with
  | nil => exact h'
  | cons _ ih => exact .cons (ih h')

theorem Chained.split {w w'' : World} {es fs : List (Event Cmd World Env)}
    (h : M.Chained w (es ++ fs) w'') : ∃ w', M.Chained w es w' ∧ M.Chained w' fs w'' := by
  induction es generalizing w with
  | nil => exact ⟨w, .nil w, h⟩
  | cons e es ih =>
    cases h with
    | cons h =>
      obtain ⟨w', h₁, h₂⟩ := ih h
      exact ⟨w', .cons h₁, h₂⟩

/-- What every step of a chain preserves holds at its end. -/
theorem Chained.invariant {P : World → Prop} {w w' : World} {es : List (Event Cmd World Env)}
    (h : M.Chained w es w') (hstep : ∀ e ∈ es, P e.before → P (M.after e)) (hw : P w) : P w' := by
  induction h with
  | nil => exact hw
  | @cons e es w' _ ih =>
    exact ih (fun e' he' => hstep e' (List.mem_cons_of_mem _ he'))
      (hstep e List.mem_cons_self hw)

/-- A fact that holds at the start of a chain and not at its end is broken by some step. -/
theorem Chained.exists_break {P : World → Prop} {w w' : World}
    {es : List (Event Cmd World Env)} (h : M.Chained w es w') (hw : P w) (hw' : ¬ P w') :
    ∃ e ∈ es, P e.before ∧ ¬ P (M.after e) := by
  by_contra hno
  push Not at hno
  exact hw' (h.invariant (fun e he hb => hno e he hb) hw)

/-- A program run alone to its end, under one environment. -/
structure Ran (Cmd World Env α : Type) where
  result : α
  events : List (Event Cmd World Env)
  world : World

variable (M)

def run (env : Env) : World → Prog Reply α → Ran Cmd World Env α
  | w, .done a => ⟨a, [], w⟩
  | w, .step c k =>
    let next := run env (M.exec env w c).2 (k (M.exec env w c).1)
    ⟨next.result, ⟨env, w, c⟩ :: next.events, next.world⟩

/-- Calls completed one after another, each with its environment and its events. -/
def runCalls (prog : C → Prog Reply α) :
    World → List (C × Env) → List (C × Env × List (Event Cmd World Env))
  | _, [] => []
  | w, (c, env) :: rest =>
    let ran := M.run env w (prog c)
    (c, env, ran.events) :: runCalls prog ran.world rest

variable {M}

@[simp] theorem run_done (env : Env) (w : World) (a : α) :
    M.run env w (Prog.done a) = ⟨a, [], w⟩ := rfl

@[simp] theorem run_step_result (env : Env) (w : World) (c : Cmd) (k : Reply c → Prog Reply α) :
    (M.run env w (.step c k)).result =
      (M.run env (M.exec env w c).2 (k (M.exec env w c).1)).result := rfl

@[simp] theorem run_step_world (env : Env) (w : World) (c : Cmd) (k : Reply c → Prog Reply α) :
    (M.run env w (.step c k)).world =
      (M.run env (M.exec env w c).2 (k (M.exec env w c).1)).world := rfl

@[simp] theorem run_step_events (env : Env) (w : World) (c : Cmd) (k : Reply c → Prog Reply α) :
    (M.run env w (.step c k)).events =
      ⟨env, w, c⟩ :: (M.run env (M.exec env w c).2 (k (M.exec env w c).1)).events := rfl

theorem run_bind (env : Env) (w : World) (p : Prog Reply α) (f : α → Prog Reply β) :
    M.run env w (p >>= f) =
      let first := M.run env w p
      let next := M.run env first.world (f first.result)
      ⟨next.result, first.events ++ next.events, next.world⟩ := by
  induction p generalizing w with
  | done a => rfl
  | step c k ih => simp only [Prog.step_bind, run, ih, List.cons_append]

theorem run_follows (env : Env) (w : World) (p : Prog Reply α) :
    M.Follows p (M.run env w p).events (.done (M.run env w p).result) := by
  induction p generalizing w with
  | done a => exact .refl _
  | step c k ih => exact .step (ih _ _)

theorem run_returns {Q : α → Prop} {p : Prog Reply α} (hp : p.Returns Q) (env : Env)
    (w : World) : Q (M.run env w p).result := (run_follows env w p).returns hp

theorem run_chained (env : Env) (w : World) (p : Prog Reply α) :
    M.Chained w (M.run env w p).events (M.run env w p).world := by
  induction p generalizing w with
  | done a => exact .nil w
  | step c k ih => exact .cons (e := ⟨env, w, c⟩) (ih _ _)

theorem run_env (env : Env) (w : World) (p : Prog Reply α) :
    ∀ e ∈ (M.run env w p).events, e.env = env := by
  induction p generalizing w with
  | done a => simp
  | step c k ih =>
    intro e he
    rcases List.mem_cons.mp he with rfl | he
    · rfl
    · exact ih _ _ e he

theorem runCalls_chained (prog : C → Prog Reply α) (w : World) (calls : List (C × Env)) :
    ∃ w', M.Chained w ((M.runCalls prog w calls).flatMap fun call => call.2.2) w' := by
  induction calls generalizing w with
  | nil => exact ⟨w, .nil w⟩
  | cons call rest ih =>
    obtain ⟨w', h⟩ := ih (M.run call.2 w (prog call.1)).world
    exact ⟨w', (run_chained _ _ _).append h⟩

theorem runCalls_follows (prog : C → Prog Reply α) (w : World) (calls : List (C × Env)) :
    ∀ call ∈ M.runCalls prog w calls,
      (∃ a, M.Follows (prog call.1) call.2.2 (.done a)) ∧ ∀ e ∈ call.2.2, e.env = call.2.1 := by
  induction calls generalizing w with
  | nil => simp [runCalls]
  | cons call rest ih =>
    intro done hdone
    rcases List.mem_cons.mp hdone with rfl | hdone
    · exact ⟨⟨_, run_follows _ _ _⟩, run_env _ _ _⟩
    · exact ih _ done hdone

theorem runCalls_calls (prog : C → Prog Reply α) (w : World) (calls : List (C × Env)) :
    (M.runCalls prog w calls).map (fun call => (call.1, call.2.1)) = calls := by
  induction calls generalizing w with
  | nil => rfl
  | cons call rest ih => simp [runCalls, ih]

/-- A call that was run to its end, with the world it found. -/
structure Served (C Cmd World Env α : Type) where
  call : C
  env : Env
  before : World
  ran : Ran Cmd World Env α

variable (M) in
/-- Calls run to their ends one after another. -/
def serve (prog : C → Prog Reply α) :
    World → List (C × Env) → List (Served C Cmd World Env α)
  | _, [] => []
  | w, (c, env) :: rest =>
    let ran := M.run env w (prog c)
    ⟨c, env, w, ran⟩ :: serve prog ran.world rest

variable (M) in
def worldAfter (prog : C → Prog Reply α) (w : World) (calls : List (C × Env)) : World :=
  calls.foldl (fun w call => (M.run call.2 w (prog call.1)).world) w

theorem env_of_served {prog : C → Prog Reply α} {w : World} {calls : List (C × Env)}
    {s : Served C Cmd World Env α} (hs : s ∈ M.serve prog w calls) : (s.call, s.env) ∈ calls := by
  induction calls generalizing w with
  | nil => cases hs
  | cons call rest ih =>
    rcases List.mem_cons.mp hs with rfl | hs
    · exact List.mem_cons_self
    · exact List.mem_cons_of_mem _ (ih hs)

theorem ran_of_served {prog : C → Prog Reply α} {w : World} {calls : List (C × Env)}
    {s : Served C Cmd World Env α} (hs : s ∈ M.serve prog w calls) :
    s.ran = M.run s.env s.before (prog s.call) := by
  induction calls generalizing w with
  | nil => cases hs
  | cons call rest ih =>
    rcases List.mem_cons.mp hs with rfl | hs
    · rfl
    · exact ih hs

theorem serve_keeps {prog : C → Prog Reply α} {P : World → Prop}
    (hkeep : ∀ env w c, P w → P (M.run env w (prog c)).world) {w : World} (hw : P w)
    (calls : List (C × Env)) :
    P (M.worldAfter prog w calls) ∧ ∀ s ∈ M.serve prog w calls, P s.before := by
  induction calls generalizing w with
  | nil => exact ⟨hw, nofun⟩
  | cons call rest ih =>
    obtain ⟨hend, hfound⟩ := ih (hkeep call.2 w call.1 hw)
    refine ⟨hend, fun s hs => ?_⟩
    rcases List.mem_cons.mp hs with rfl | hs
    · exact hw
    · exact hfound s hs

/-- What every call establishes and every later call preserves holds at the end, and holds for the
earlier of two calls when the later one starts. -/
theorem serve_lasting {prog : C → Prog Reply α} {P : Served C Cmd World Env α → World → Prop}
    (hkeep : ∀ s env w c, P s w → P s (M.run env w (prog c)).world) (w : World)
    (calls : List (C × Env)) (hholds : ∀ s ∈ M.serve prog w calls, P s s.ran.world) :
    (∀ s ∈ M.serve prog w calls, P s (M.worldAfter prog w calls)) ∧
      (M.serve prog w calls).Pairwise fun s t => P s t.before := by
  induction calls generalizing w with
  | nil => exact ⟨nofun, .nil⟩
  | cons call rest ih =>
    have hfirst := hholds _ List.mem_cons_self
    obtain ⟨hend, hfound⟩ := serve_keeps (hkeep _) hfirst rest
    obtain ⟨hends, hpairs⟩ := ih _ fun s hs => hholds s (List.mem_cons_of_mem _ hs)
    refine ⟨fun s hs => ?_, .cons hfound hpairs⟩
    rcases List.mem_cons.mp hs with rfl | hs
    · exact hend
    · exact hends s hs

end Machine

/-- Any number of threads over one world, with the log of what was executed so far. -/
structure Pool {Cmd : Type} (Reply : Cmd → Type) (World Env T α : Type) where
  threads : T → Prog Reply α
  world : World
  log : List (T × Event Cmd World Env)

namespace Pool

variable [DecidableEq T] (M : Machine Reply World Env)

/-- The scheduler lets thread `t` execute its next command; a finished thread does nothing. -/
def step (s : Pool Reply World Env T α) (turn : T × Env) : Pool Reply World Env T α :=
  match s.threads turn.1 with
  | .done _ => s
  | .step c k =>
    { threads := Function.update s.threads turn.1 (k (M.exec turn.2 s.world c).1)
      world := (M.exec turn.2 s.world c).2
      log := s.log ++ [(turn.1, ⟨turn.2, s.world, c⟩)] }

/-- Every interleaving of the threads is the run of some schedule. -/
def run (progs : T → Prog Reply α) (w : World) (schedule : List (T × Env)) :
    Pool Reply World Env T α :=
  schedule.foldl (step M) ⟨progs, w, []⟩

def eventsOf (t : T) (log : List (T × Event Cmd World Env)) : List (Event Cmd World Env) :=
  (log.filter (·.1 = t)).map Prod.snd

@[simp] theorem eventsOf_nil (t : T) :
    eventsOf t ([] : List (T × Event Cmd World Env)) = [] := rfl

theorem eventsOf_append (t : T) (log log' : List (T × Event Cmd World Env)) :
    eventsOf t (log ++ log') = eventsOf t log ++ eventsOf t log' := by
  simp [eventsOf]

theorem mem_eventsOf {t : T} {e : Event Cmd World Env} {log : List (T × Event Cmd World Env)} :
    e ∈ eventsOf t log ↔ (t, e) ∈ log := by
  simp [eventsOf]

variable {M}

theorem step_of_done {s : Pool Reply World Env T α} {turn : T × Env} {a : α}
    (h : s.threads turn.1 = .done a) : step M s turn = s := by
  simp [step, h]

theorem step_of_step {s : Pool Reply World Env T α} {turn : T × Env} {c : Cmd}
    {k : Reply c → Prog Reply α} (h : s.threads turn.1 = .step c k) :
    step M s turn =
      { threads := Function.update s.threads turn.1 (k (M.exec turn.2 s.world c).1)
        world := (M.exec turn.2 s.world c).2
        log := s.log ++ [(turn.1, ⟨turn.2, s.world, c⟩)] } := by
  simp [step, h]

theorem steps_chained (s : Pool Reply World Env T α) (schedule : List (T × Env)) :
    ∃ more, (schedule.foldl (step M) s).log = s.log ++ more ∧
      M.Chained s.world (more.map Prod.snd) (schedule.foldl (step M) s).world := by
  induction schedule generalizing s with
  | nil => exact ⟨[], by simp, .nil _⟩
  | cons turn schedule ih =>
    obtain ⟨more, hlog, hchain⟩ := ih (step M s turn)
    rw [List.foldl_cons]
    cases hthread : s.threads turn.1 with
    | done a =>
      rw [step_of_done hthread] at hlog hchain ⊢
      exact ⟨more, hlog, hchain⟩
    | step c k =>
      refine ⟨(turn.1, ⟨turn.2, s.world, c⟩) :: more, ?_, ?_⟩
      · rw [hlog, step_of_step hthread, List.append_assoc]
        rfl
      · refine .cons (e := ⟨turn.2, s.world, c⟩) ?_
        rw [step_of_step hthread] at hchain ⊢
        exact hchain

theorem run_chained (progs : T → Prog Reply α) (w : World) (schedule : List (T × Env)) :
    M.Chained w ((run M progs w schedule).log.map Prod.snd) (run M progs w schedule).world := by
  obtain ⟨more, hlog, hchain⟩ := steps_chained (M := M) ⟨progs, w, []⟩ schedule
  rw [run, hlog]
  exact hchain

theorem run_append (progs : T → Prog Reply α) (w : World) (schedule more : List (T × Env)) :
    run M progs w (schedule ++ more) = more.foldl (step M) (run M progs w schedule) := by
  rw [run, List.foldl_append, run]

theorem run_follows (progs : T → Prog Reply α) (w : World) (schedule : List (T × Env)) (t : T) :
    M.Follows (progs t) (eventsOf t (run M progs w schedule).log)
      ((run M progs w schedule).threads t) := by
  induction schedule using List.reverseRecOn with
  | nil => exact .refl _
  | append_singleton schedule turn ih =>
    rw [run, List.foldl_append, ← run]
    simp only [List.foldl_cons, List.foldl_nil, step]
    split
    · exact ih
    · next c k hthread =>
        rw [eventsOf_append]
        by_cases ht : turn.1 = t
        · subst ht
          rw [hthread] at ih
          simpa [eventsOf] using ih.snoc turn.2 (run M progs w schedule).world
        · simpa [eventsOf, ht, Function.update_of_ne (Ne.symm ht)] using ih

/-- Who executed what under which environment follows the schedule. -/
theorem log_sublist_schedule (progs : T → Prog Reply α) (w : World) (schedule : List (T × Env)) :
    ((run M progs w schedule).log.map fun entry => (entry.1, entry.2.env)).Sublist schedule := by
  induction schedule using List.reverseRecOn with
  | nil => exact .refl _
  | append_singleton schedule turn ih =>
    rw [run_append, List.foldl_cons, List.foldl_nil]
    cases hthread : (run M progs w schedule).threads turn.1 with
    | done a =>
      rw [step_of_done hthread]
      exact ih.trans (List.sublist_append_left _ _)
    | step c k =>
      rw [step_of_step hthread, List.map_append]
      exact ih.append (.refl _)

/-- Every entry of the log is the turn of a thread that was about to issue its command. -/
theorem exists_turn {progs : T → Prog Reply α} {w : World} {schedule : List (T × Env)}
    {before after : List (T × Event Cmd World Env)} {t : T} {e : Event Cmd World Env}
    (h : (run M progs w schedule).log = before ++ (t, e) :: after) :
    ∃ prior rest k, schedule = prior ++ (t, e.env) :: rest ∧
      (run M progs w prior).log = before ∧ (run M progs w prior).threads t = .step e.cmd k := by
  induction schedule using List.reverseRecOn generalizing after with
  | nil => simp [run] at h
  | append_singleton schedule turn ih =>
    rw [run_append, List.foldl_cons, List.foldl_nil] at h
    cases hthread : (run M progs w schedule).threads turn.1 with
    | done a =>
      rw [step_of_done hthread] at h
      obtain ⟨prior, rest, k, rfl, hlog, hnext⟩ := ih h
      exact ⟨prior, rest ++ [turn], k, by simp, hlog, hnext⟩
    | step c k =>
      rw [step_of_step hthread] at h
      -- the entry in question is either the newest one or an older one
      rcases List.eq_nil_or_concat after with rfl | ⟨older, last, rfl⟩
      · obtain ⟨hlog, hentry⟩ := List.append_inj' h rfl
        obtain ⟨rfl, rfl⟩ := Prod.mk.inj (List.singleton_inj.mp hentry)
        exact ⟨schedule, [], k, rfl, hlog, hthread⟩
      · rw [List.concat_eq_append, ← List.cons_append, ← List.append_assoc] at h
        obtain ⟨hlog, -⟩ := List.append_inj' h rfl
        obtain ⟨prior, rest, k', rfl, hbefore, hnext⟩ := ih hlog
        exact ⟨prior, rest ++ [turn], k', by simp, hbefore, hnext⟩

/-- The run can be stopped right after any entry of its log. -/
theorem exists_run_until {progs : T → Prog Reply α} {w : World} {schedule : List (T × Env)}
    {before after : List (T × Event Cmd World Env)} {entry : T × Event Cmd World Env}
    (h : (run M progs w schedule).log = before ++ entry :: after) :
    ∃ prior rest, schedule = prior ++ rest ∧ (run M progs w prior).log = before ++ [entry] := by
  obtain ⟨prior, rest, k, rfl, hbefore, hnext⟩ := exists_turn h
  refine ⟨prior ++ [(entry.1, entry.2.env)], rest, by simp, ?_⟩
  have hlog : (run M progs w (prior ++ [(entry.1, entry.2.env)])).log =
      before ++ [(entry.1, ⟨entry.2.env, (run M progs w prior).world, entry.2.cmd⟩)] := by
    rw [run_append, List.foldl_cons, List.foldl_nil, step_of_step hnext, hbefore]
  -- what follows only adds to this log
  obtain ⟨more, hmore, -⟩ :=
    steps_chained (M := M) (run M progs w (prior ++ [(entry.1, entry.2.env)])) rest
  rw [List.append_cons, run_append, hmore, hlog, List.append_assoc] at h
  rw [hlog, (List.cons.inj (List.append_cancel_left h)).1]

end Pool

end AtomicPrograms
