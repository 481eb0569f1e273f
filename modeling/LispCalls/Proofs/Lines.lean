import LispCalls.Proofs.Confinement

namespace LispCalls

def Procedure.namedLine? : Procedure → Option Nat
  | .primitive _ _ (.applyAt line) => some line
  | _ => none

def Value.namedLines (values : List Value) : List Nat :=
  (Value.proceduresOf values).filterMap Procedure.namedLine?

theorem Value.mem_namedLines {line : Nat} {values : List Value} :
    line ∈ namedLines values ↔
      ∃ name arity, .primitive name arity (.applyAt line) ∈ proceduresOf values := by
  unfold namedLines
  rw [List.mem_filterMap]
  constructor
  · rintro ⟨p,held,named⟩
    match p with
    | .primitive name arity (.applyAt other) =>
      cases named
      exact ⟨name,arity,held⟩
  · rintro ⟨name,arity,held⟩
    exact ⟨_,held,rfl⟩

theorem Value.namedLines_nil {values : List Value} (unnamed : ∀ name arity line,
    .primitive name arity (.applyAt line) ∉ proceduresOf values) : namedLines values = [] := by
  rw [List.eq_nil_iff_forall_not_mem]
  intro line member
  obtain ⟨name,arity,held⟩ := mem_namedLines.1 member
  exact unnamed name arity line held

namespace Confinement

def lines (line : Nat) (values : List Value) : Confinement where
  procedure p := p ∈ Value.proceduresOf values
  line other := other ∈ line :: Value.namedLines values
  error e := e.line ∈ line :: Value.namedLines values

theorem lines_kept (line : Nat) (values : List Value) (i : Interpreter) :
    (lines line values).Kept i where
  otherLine name arity _ held := List.mem_cons_of_mem _ (Value.mem_namedLines.2 ⟨name,arity,held⟩)
  failure _ _ _ _ _ _ known := known
  uncallable _ _ _ known := known
  miscounted _ _ _ _ known := known
  operator _ _ _ _ known failed := by
    obtain ⟨fault,-,rfl⟩ := Operator.call_fault failed
    exact known

theorem lines_call (callee : Value) (line : Nat) (args : List Value) :
    (lines line (callee :: args)).call callee line args :=
  ⟨fun _ held => held,List.mem_cons_self⟩

end Confinement

def Entry.lines : Entry → List Nat
  | .noted _ => []
  | .opened span | .closed span (.ok _) => [span.line]
  | .closed span (.error e) => [span.line,e.line]

theorem Entry.closed_lines {span : Span} {outcome : Outcome} {line : Nat} :
    line ∈ (Entry.closed span outcome).lines ↔
      line = span.line ∨ ∃ e, outcome = .error e ∧ line = e.line := by
  cases outcome <;> simp [lines]

structure Run.Keeps (run : Run Value) (known : List Nat) : Prop where
  error : ∀ e, run.result = .error e → e.line ∈ known
  log : ∀ entry ∈ run.log, ∀ line ∈ entry.lines, line ∈ known

namespace Interpreter

variable (i : Interpreter) (line : Nat)

theorem apply_keeps (callee : Value) (args : List Value) :
    (Run.ofTrace (i.apply callee line args)).Keeps
      (line :: Value.namedLines (callee :: args)) := by
  have kept := Confinement.lines_kept line (callee :: args) i
  have called := Confinement.lines_call callee line args
  refine ⟨fun e failed => ?_,fun entry member other told => ?_⟩
  · have outcome := Confinement.apply_outcome kept called
    have same : (i.apply callee line args).outcome = .error e := failed
    rw [same] at outcome
    exact outcome
  · rw [Run.ofTrace_log] at member
    obtain ⟨call,among,bounds⟩ := Trace.mem_log member
    obtain ⟨started,outcome⟩ := Confinement.calls_confined kept called call among
    rcases bounds with rfl | rfl
    · cases List.mem_singleton.1 told
      exact started
    · rcases Entry.closed_lines.1 told with rfl | ⟨e,failed,rfl⟩
      · exact started
      · rw [failed] at outcome
        exact outcome

theorem resolve_keeps (symbol : String) : (Run.ofResult (i.resolve line symbol)).Keeps [line] := by
  refine ⟨fun e failed => ?_,nofun⟩
  have unbound : i.resolve line symbol = .error e := failed
  unfold resolve at unbound
  cases bound : i.table.get? symbol with
  | some p =>
    rw [bound] at unbound
    cases unbound
  | none =>
    rw [bound] at unbound
    cases unbound
    exact List.mem_singleton_self line

theorem callSymbol_keeps (symbol : String) (args : List Value) :
    (i.callSymbol line symbol args).Keeps (line :: match i.table.get? symbol with
      | none => []
      | some p => Value.namedLines (.procedure p :: args)) := by
  rw [i.callSymbol_lookup]
  cases bound : i.table.get? symbol with
  | none =>
    have keeps := i.resolve_keeps line symbol
    rwa [resolve,bound] at keeps
  | some p => exact i.apply_keeps line (.procedure p) args

end Interpreter

-- Whatever goes wrong in a run goes wrong on the line that it was started on or on one that a
-- procedure among its values names, and so does every call that its log tells of.
theorem runs_keep_lines (i : Interpreter) (line : Nat) (args : List Value) :
    (∀ callee, (Run.ofTrace (i.apply callee line args)).Keeps
      (line :: Value.namedLines (callee :: args))) ∧
    (∀ symbol, (Run.ofResult (i.resolve line symbol)).Keeps [line]) ∧
    (∀ symbol, (i.callSymbol line symbol args).Keeps (line :: match i.table.get? symbol with
      | none => []
      | some p => Value.namedLines (.procedure p :: args))) ∧
    (∀ callee, (∀ name arity other,
        .primitive name arity (.applyAt other) ∉ Value.proceduresOf (callee :: args)) →
      (Run.ofTrace (i.apply callee line args)).Keeps [line]) ∧
    ∀ symbol, (∀ p, i.table.get? symbol = some p → ∀ name arity other,
        .primitive name arity (.applyAt other) ∉ Value.proceduresOf (.procedure p :: args)) →
      (i.callSymbol line symbol args).Keeps [line] := by
  refine ⟨fun callee => i.apply_keeps line callee args,fun symbol => i.resolve_keeps line symbol,
    fun symbol => i.callSymbol_keeps line symbol args,?_,?_⟩
  · intro callee unnamed
    rw [← Value.namedLines_nil unnamed]
    exact i.apply_keeps line callee args
  · intro symbol unnamed
    have keeps := i.callSymbol_keeps line symbol args
    cases bound : i.table.get? symbol with
    | none => rwa [bound] at keeps
    | some p =>
      rw [bound] at keeps
      rwa [← Value.namedLines_nil (unnamed p bound)]

end LispCalls
