import LispCalls.Proofs.Calls
import LispCalls.Proofs.Confinement

namespace LispCalls

def Settled (traces : List Trace) : Outcome → Prop
  | .ok _ => ∀ trace ∈ traces, ∃ v, trace.outcome = .ok v
  | .error e => ∃ earlier last, traces = earlier ++ [last] ∧
      (∀ trace ∈ earlier, ∃ v, trace.outcome = .ok v) ∧ last.outcome = .error e

def Script.Steady : Script → Prop
  | .done outcome => ∃ v, outcome = .ok v
  | .call _ _ _ next => (∀ e, next (.error e) = .done (.error e)) ∧ ∀ v, (next (.ok v)).Steady

namespace Script

theorem each_steady {head : Value} {line : Nat} {rest : List Value}
    {finish : List Value → Script} (finished : ∀ results, (finish results).Steady) :
    (each head line rest finish).Steady := by
  induction rest generalizing finish with
  | nil => exact finished []
  | cons v rest ih =>
    refine ⟨fun e => rfl,?_⟩
    intro w
    exact ih fun results => finished (w :: results)

theorem along_steady {head : Value} {line : Nat} {acc : Value} {later : List Value} :
    (along head line acc later).Steady := by
  induction later generalizing acc with
  | nil => exact ⟨acc,rfl⟩
  | cons v later ih => exact ⟨fun e => rfl,fun next => ih⟩

theorem steady_settled {s : Script} (steady : s.Steady) (i : Interpreter) :
    Settled (s.perform i).traces (s.perform i).result := by
  induction s with
  | done outcome =>
    obtain ⟨v,rfl⟩ := steady
    intro trace member
    cases member
  | call callee line args next ih =>
    obtain ⟨stops,goes⟩ := steady
    rw [perform]
    cases first : (i.apply callee line args).outcome with
    | error e =>
      simp only [stops]
      exact ⟨[],_,rfl,by simp,first⟩
    | ok v =>
      have rest := ih (.ok v) (goes v)
      simp only
      cases result : ((next (.ok v)).perform i).result with
      | ok w =>
        rw [result] at rest
        intro trace member
        rcases List.mem_cons.1 member with rfl | later
        · exact ⟨v,first⟩
        · exact rest trace later
      | error e =>
        rw [result] at rest
        obtain ⟨earlier,last,split,succeeded,failed⟩ := rest
        refine ⟨i.apply callee line args :: earlier,last,by rw [split]; rfl,?_,failed⟩
        intro trace member
        rcases List.mem_cons.1 member with rfl | before
        · exact ⟨v,first⟩
        · exact succeeded trace before

end Script

theorem Action.script_steady {action : Action} (untried : action ≠ .attempt) (line : Nat)
    (args : List Value) : (action.script line args).Steady ∨
      ∃ e, action.script line args = .done (.error e) := by
  cases action with
  | attempt => exact absurd rfl untried
  | fail kind message => exact .inr ⟨_,rfl⟩
  | apply | applyAt => exact .inl ⟨fun e => rfl,fun v => ⟨v,rfl⟩⟩
  | map =>
    cases args with
    | nil => exact .inl ⟨_,rfl⟩
    | cons head rest => exact .inl (Script.each_steady fun results => ⟨_,rfl⟩)
  | reduce =>
    match args with
    | [] | [_] => exact .inl ⟨_,rfl⟩
    | head :: acc :: later => exact .inl Script.along_steady
  | _ => exact .inl ⟨_,rfl⟩

inductive FailFast : Trace → Prop where
  | refused {callee : Value} {line : Nat} {args : List Value} {fault : Fault} :
      FailFast (.refused callee line args fault)
  | computed {op : Operator} {line : Nat} {args : List Value} {outcome : Outcome} :
      FailFast (.entered (.operator op) line args [.computed op line args outcome] outcome)
  | failed {p : Procedure} {line : Nat} {args : List Value} {e : CallError} :
      FailFast (.entered p line args [] (.error e))
  | settled {p : Procedure} {line : Nat} {args : List Value} {inner : List Trace}
      {outcome : Outcome} (settled : Settled inner outcome)
      (nested : ∀ trace ∈ inner, FailFast trace) :
      FailFast (.entered p line args inner outcome)

def untried : Confinement where
  procedure p := ∀ name arity, p ≠ .primitive name arity .attempt
  line _ := True
  error _ := True

theorem untried_kept (i : Interpreter) : untried.Kept i where
  otherLine _ _ _ _ := trivial
  failure _ _ _ _ _ _ _ := trivial
  uncallable _ _ _ _ := trivial
  miscounted _ _ _ _ _ := trivial
  operator _ _ _ _ _ _ := trivial

theorem apply_failFast (i : Interpreter) (callee : Value) (line : Nat) (args : List Value)
    (confined : untried.call callee line args) : FailFast (i.apply callee line args) := by
  induction callee, line, args using i.apply_induction with
  | uncallable callee line args other =>
    rw [i.apply_uncallable other]
    exact .refused
  | miscounted p line args rejected =>
    rw [i.apply_miscounted rejected]
    exact .refused
  | operator op line args =>
    rw [i.apply_operator]
    exact .computed
  | primitive name arity action line args admitted inner =>
    rw [i.apply_primitive admitted]
    have other : action ≠ .attempt := by
      rintro rfl
      refine confined.1 (.primitive name arity .attempt) ?_ name arity rfl
      simp [Value.proceduresOf,Value.procedures,Procedure.held]
    rcases action.script_steady other line args with steady | ⟨e,failed⟩
    · refine .settled (Script.steady_settled steady i) ?_
      intro trace made
      obtain ⟨callee,at_,given,rfl,called⟩ :=
        Confinement.primitive_calls (untried_kept i) confined trace made
      exact inner callee at_ given made called
    · rw [failed]
      exact .failed

def Entry.Fails (entry : Entry) (e : CallError) : Prop := ∃ span, entry = .closed span (.error e)

def Unwinds (entries : List Entry) : Outcome → Prop
  | .ok _ => ∀ entry ∈ entries, ∀ e, ¬entry.Fails e
  | .error e => ∃ front back, entries = front ++ back ∧
      (∀ entry ∈ front, ∀ other, ¬entry.Fails other) ∧ ∀ entry ∈ back, entry.Fails e

namespace Unwinds

theorem nothing (outcome : Outcome) : Unwinds [] outcome := by
  cases outcome with
  | ok v => exact nofun
  | error e => exact ⟨[],[],rfl,nofun,nofun⟩

theorem enclosed {within : List Entry} {outcome : Outcome} (unwinds : Unwinds within outcome)
    (span : Span) : Unwinds (enclosed span within outcome) outcome := by
  have opens : ∀ e, ¬(Entry.opened span).Fails e := nofun
  cases outcome with
  | ok v =>
    intro entry member
    rcases List.mem_cons.1 member with rfl | later
    · exact opens
    rcases List.mem_append.1 later with inner | ends
    · exact unwinds entry inner
    · cases List.mem_singleton.1 ends
      exact nofun
  | error e =>
    obtain ⟨front,back,rfl,smooth,failing⟩ := unwinds
    refine ⟨.opened span :: front,back ++ [.closed span (.error e)],by simp [LispCalls.enclosed],?_,?_⟩
    · intro entry member
      rcases List.mem_cons.1 member with rfl | inner
      · exact opens
      · exact smooth entry inner
    · intro entry member
      rcases List.mem_append.1 member with inner | ends
      · exact failing entry inner
      · exact ⟨span,List.mem_singleton.1 ends⟩

theorem append {earlier later : List Entry} {v : Value} {outcome : Outcome}
    (first : Unwinds earlier (.ok v)) (second : Unwinds later outcome) :
    Unwinds (earlier ++ later) outcome := by
  cases outcome with
  | ok w =>
    intro entry member
    rcases List.mem_append.1 member with before | after
    · exact first entry before
    · exact second entry after
  | error e =>
    obtain ⟨front,back,rfl,smooth,failing⟩ := second
    refine ⟨earlier ++ front,back,(List.append_assoc ..).symm,?_,failing⟩
    intro entry member
    rcases List.mem_append.1 member with before | after
    · exact first entry before
    · exact smooth entry after

theorem successes {traces : List Trace} (unwinds : ∀ trace ∈ traces, Unwinds trace.log trace.outcome)
    (succeeded : ∀ trace ∈ traces, ∃ v, trace.outcome = .ok v) (v : Value) :
    Unwinds (Trace.logs traces) (.ok v) := by
  induction traces with
  | nil => exact nothing _
  | cons trace rest ih =>
    obtain ⟨w,first⟩ := succeeded trace List.mem_cons_self
    have log := unwinds trace List.mem_cons_self
    rw [first] at log
    exact log.append (ih (fun trace later => unwinds trace (List.mem_cons_of_mem _ later))
      fun trace later => succeeded trace (List.mem_cons_of_mem _ later))

theorem settled {traces : List Trace} {outcome : Outcome} (settled : Settled traces outcome)
    (unwinds : ∀ trace ∈ traces, Unwinds trace.log trace.outcome) :
    Unwinds (Trace.logs traces) outcome := by
  cases outcome with
  | ok v => exact successes unwinds settled v
  | error e =>
    obtain ⟨earlier,last,rfl,succeeded,failed⟩ := settled
    have before := successes (fun trace member => unwinds trace (List.mem_append_left _ member))
      succeeded .nil
    have ends := unwinds last (List.mem_append_right _ (List.mem_singleton_self last))
    rw [failed] at ends
    simpa [Trace.logs] using before.append ends

theorem failure {entries before after : List Entry} {outcome : Outcome} {failing : Entry}
    {e : CallError} (unwinds : Unwinds entries outcome) (failed : failing.Fails e)
    (split : entries = before ++ failing :: after) :
    outcome = .error e ∧ ∀ entry ∈ after, entry.Fails e := by
  cases outcome with
  | ok v => exact absurd failed (unwinds failing (by simp [split]) e)
  | error f =>
    obtain ⟨front,back,rfl,smooth,fails⟩ := unwinds
    have member : ∀ entry ∈ failing :: after, entry ∈ back := by
      rcases List.append_eq_append_iff.1 split with ⟨between,_,rest⟩ | ⟨between,whole,rest⟩
      · intro entry member
        rw [rest]
        exact List.mem_append_right _ member
      · cases between with
        | nil =>
          intro entry member
          rwa [← List.nil_append back,← rest]
        | cons head tail =>
          cases rest
          exact absurd failed (smooth failing (by simp [whole]) e)
    have same : f = e := by
      obtain ⟨span,ends⟩ := fails failing (member failing List.mem_cons_self)
      obtain ⟨other,closes⟩ := failed
      rw [ends] at closes
      cases closes
      rfl
    subst same
    exact ⟨rfl,fun entry later => fails entry (member entry (List.mem_cons_of_mem _ later))⟩

end Unwinds

theorem FailFast.unwinds {run : Trace} (failFast : FailFast run) : Unwinds run.log run.outcome := by
  induction failFast with
  | refused => exact (Unwinds.nothing _).enclosed _
  | @computed op line args outcome =>
    have work := (Unwinds.nothing outcome).enclosed (.compute op args.length line)
    exact Unwinds.enclosed (by simpa [Trace.logs,Trace.log] using work) _
  | failed => exact (Unwinds.nothing _).enclosed _
  | settled settled nested ih => exact (Unwinds.settled settled ih).enclosed _

def Entry.Applies (entry : Entry) : Prop :=
  ∃ callee count line, entry = .opened (.apply callee count line)

structure Trace.Latest (run last : Trace) : Prop where
  within : last ∈ run.calls
  logged : ∃ before first inner after, run.log = before ++ last.log ++ after ∧
    last.log = first :: inner ∧ first.Applies ∧ ∀ entry ∈ inner ++ after, ¬entry.Applies

namespace Trace.Latest

theorem itself {run : Trace} {callee : Value} {count line : Nat} {inner : List Entry}
    (log : run.log = .opened (.apply callee count line) :: inner)
    (alone : ∀ entry ∈ inner, ¬entry.Applies) : run.Latest run where
  within := run.calls_self
  logged := ⟨[],_,inner,[],by simp,log,⟨callee,count,line,rfl⟩,by simpa using alone⟩

theorem outward {p : Procedure} {line : Nat} {args : List Value} {earlier : List Trace}
    {run last : Trace} {outcome : Outcome} (latest : run.Latest last) :
    (Trace.entered p line args (earlier ++ [run]) outcome).Latest last where
  within := by
    refine List.mem_cons_of_mem _ (mem_callsOf.2 ⟨run,?_,latest.within⟩)
    exact List.mem_append_right _ (List.mem_singleton_self run)
  logged := by
    obtain ⟨before,first,inner,after,log,own,applies,alone⟩ := latest.logged
    let span : Span := .apply (.procedure p) args.length line
    refine ⟨.opened span :: (logs earlier ++ before),first,inner,after ++ [.closed span outcome],
      ?_,own,applies,?_⟩
    · simp [Trace.log,logs,log,enclosed,span]
    · intro entry member
      rw [← List.append_assoc] at member
      rcases List.mem_append.1 member with before | ends
      · exact alone entry before
      · cases List.mem_singleton.1 ends
        exact nofun

end Trace.Latest

theorem FailFast.source {run : Trace} (failFast : FailFast run) {e : CallError}
    (failed : run.outcome = .error e) : ∃ last, run.Latest last ∧ last.outcome = .error e := by
  induction failFast with
  | refused => exact ⟨_,.itself rfl (by simp [Entry.Applies]),failed⟩
  | computed => exact ⟨_,.itself rfl (by simp [Entry.Applies,Trace.logs,Trace.log,enclosed]),failed⟩
  | failed => exact ⟨_,.itself rfl (by simp [Entry.Applies,Trace.logs]),failed⟩
  | settled settled nested ih =>
    cases failed
    obtain ⟨earlier,inner,rfl,-,ended⟩ := settled
    obtain ⟨last,latest,same⟩ := ih inner (by simp) ended
    exact ⟨last,latest.outward,same⟩

-- Of a run in which no procedure turns errors into strings: whatever error a call in it has is
-- the error of the run, and nothing begins after it.
theorem errors_end_runs (i : Interpreter) (callee : Value) (line : Nat) (args : List Value)
    (untried : ∀ name arity,
      .primitive name arity .attempt ∉ Value.proceduresOf (callee :: args)) :
    let run := i.apply callee line args
    (∀ call ∈ run.calls, ∀ e, call.outcome = .error e → run.outcome = .error e) ∧
    (∀ before span e after, run.log = before ++ .closed span (.error e) :: after →
      run.outcome = .error e ∧ ∀ entry ∈ after, ∃ outer, entry = .closed outer (.error e)) ∧
    (∀ v, run.outcome = .ok v → ∀ call ∈ run.calls, ∃ w, call.outcome = .ok w) ∧
    ∀ e, run.outcome = .error e → ∃ last, run.Latest last ∧ last.outcome = .error e := by
  intro run
  have failFast : FailFast run := apply_failFast i callee line args
    ⟨fun p member name arity same => untried name arity (same ▸ member),trivial⟩
  have failing : ∀ call ∈ run.calls, ∀ e, call.outcome = .error e → run.outcome = .error e := by
    intro call member e failed
    obtain ⟨before,after,logged⟩ := Trace.calls_logged member
    obtain ⟨front,span,ends⟩ := call.log_closes
    rw [failed] at ends
    have split : run.log = (before ++ front) ++ .closed span (.error e) :: after := by
      simp [logged,ends]
    exact (failFast.unwinds.failure ⟨span,rfl⟩ split).1
  refine ⟨failing,?_,?_,fun e => failFast.source⟩
  · intro before span e after split
    exact failFast.unwinds.failure ⟨span,rfl⟩ split
  · intro v succeeded call member
    cases result : call.outcome with
    | ok w => exact ⟨w,rfl⟩
    | error e =>
      rw [failing call member e result] at succeeded
      cases succeeded

theorem errors_end_runs_map :
    let map : Value := .procedure (.primitive "map" .any .map)
    let apply : Value := .procedure (.primitive "apply" .any .apply)
    let args : List Value := [map,.procedure (.operator .add),.list [.number 1.0,.number 2.0],
      .list [.number 1.0,.nil],.list [.number 3.0,.number 4.0]]
    let run := Interpreter.standard.1.apply apply 7 args
    let e := (Fault.notANumber "+").onLine 7
    (∀ name arity, .primitive name arity .attempt ∉ Value.proceduresOf (apply :: args)) ∧
      run.outcome = .error e ∧ ∃ last, run.Latest last ∧ last.outcome = .error e := by
  intro map apply args run e
  have untried : ∀ name arity,
      .primitive name arity .attempt ∉ Value.proceduresOf (apply :: args) := by
    simp [map,apply,args,Value.proceduresOf,Value.procedures,Procedure.held,Action.held]
  have failed : run.outcome = .error e := by
    have added : Operator.add.call 7 [.number 1.0,.number 2.0] = .ok (.number (0.0 + 1.0 + 2.0)) := rfl
    have refused : Operator.add.call 7 [.number 1.0,.nil] = .error e := rfl
    simp only [run,apply,args,map]
    rw [Interpreter.apply_primitive _ rfl]
    simp only [Action.script,Script.perform,List.headD_cons,List.tail_cons]
    rw [Interpreter.apply_primitive _ rfl]
    simp only [Action.script,Script.each,Script.perform,Value.spread,Interpreter.apply_operator,
      added,refused,Script.onSuccess,Trace.outcome,Run.ofResult]
  exact ⟨untried,failed,(errors_end_runs Interpreter.standard.1 apply 7 args untried).2.2.2 e failed⟩

end LispCalls
