import LispCalls.Proofs.Calls
import LispCalls.Proofs.Operands

namespace LispCalls

mutual
def Value.procedures : Value → List Procedure
  | .list items => Value.proceduresOf items
  | .procedure p => p.held
  | _ => []
def Procedure.held : Procedure → List Procedure
  | .operator op => [.operator op]
  | .primitive name arity action => .primitive name arity action :: action.held
def Action.held : Action → List Procedure
  | .constant value => value.procedures
  | _ => []
def Value.proceduresOf : List Value → List Procedure
  | [] => []
  | v :: rest => v.procedures ++ Value.proceduresOf rest
end

structure Confinement where
  procedure : Procedure → Prop
  line : Nat → Prop
  error : CallError → Prop

namespace Confinement

variable (c : Confinement)

def values (vs : List Value) : Prop := ∀ p ∈ Value.proceduresOf vs, c.procedure p

def call (callee : Value) (line : Nat) (args : List Value) : Prop :=
  c.values (callee :: args) ∧ c.line line

def outcome : Outcome → Prop
  | .ok v => c.values [v]
  | .error e => c.error e

def script : Script → Prop
  | .done result => c.outcome result
  | .call callee line args next =>
    c.call callee line args ∧ ∀ result, c.outcome result → script (next result)

-- What an interpreter adds of its own, the lines and errors that a primitive names included.
structure Kept (i : Interpreter) : Prop where
  otherLine : ∀ name arity other,
    c.procedure (.primitive name arity (.applyAt other)) → c.line other
  failure : ∀ name arity kind message line,
    c.procedure (.primitive name arity (.fail kind message)) → c.line line →
    c.error ⟨line,kind,message⟩
  uncallable : ∀ callee : Value, callee.procedure? = none → ∀ line, c.line line →
    c.error ((Fault.notCallable callee.typeName).onLine line)
  miscounted : ∀ p count, i.admits p count = false → ∀ line, c.line line →
    c.error ((Fault.argumentCount p.name p.arity count).onLine line)
  operator : ∀ op line args e, c.line line → Operator.call op line args = .error e → c.error e

variable {c}

theorem values_cons {v : Value} {rest : List Value} :
    c.values (v :: rest) ↔ c.values [v] ∧ c.values rest := by
  simp [values,Value.proceduresOf,or_imp,forall_and]

theorem values_list {items : List Value} : c.values [.list items] ↔ c.values items := by
  simp [values,Value.proceduresOf,Value.procedures]

theorem values_nil : c.values [] := by simp [values,Value.proceduresOf]

theorem values_head {args : List Value} (confined : c.values args) :
    c.values [args.headD .nil] := by
  cases args with
  | nil => simp [values,Value.proceduresOf,Value.procedures]
  | cons head rest => exact (values_cons.1 confined).1

theorem values_tail {args : List Value} (confined : c.values args) : c.values args.tail := by
  cases args with
  | nil => exact confined
  | cons head rest => exact (values_cons.1 confined).2

theorem values_spread {v : Value} (confined : c.values [v]) : c.values v.spread := by
  cases v with
  | list items => exact values_list.1 confined
  | _ => exact confined

theorem onSuccess_script {next : Value → Script} (later : ∀ v, c.values [v] → c.script (next v))
    (result : Outcome) (confined : c.outcome result) : c.script (Script.onSuccess next result) := by
  cases result with
  | ok v => exact later v confined
  | error e => exact confined

theorem each_script {head : Value} {line : Nat} {rest : List Value} {finish : List Value → Script}
    (callee : c.values [head]) (lines : c.line line) (elements : c.values rest)
    (finished : ∀ results, c.values results → c.script (finish results)) :
    c.script (.each head line rest finish) := by
  induction rest generalizing finish with
  | nil => exact finished [] values_nil
  | cons v rest ih =>
    obtain ⟨first,others⟩ := values_cons.1 elements
    refine ⟨⟨values_cons.2 ⟨callee,values_spread first⟩,lines⟩,onSuccess_script fun w result => ?_⟩
    exact ih others fun results confined => finished (w :: results) (values_cons.2 ⟨result,confined⟩)

theorem along_script {head : Value} {line : Nat} {acc : Value} {later : List Value}
    (callee : c.values [head]) (lines : c.line line) (start : c.values [acc])
    (elements : c.values later) : c.script (.along head line acc later) := by
  induction later generalizing acc with
  | nil => exact start
  | cons v later ih =>
    obtain ⟨first,others⟩ := values_cons.1 elements
    refine ⟨⟨values_cons.2 ⟨callee,values_cons.2 ⟨start,first⟩⟩,lines⟩,?_⟩
    exact onSuccess_script fun next result => ih result others

variable {i : Interpreter} (kept : c.Kept i)

include kept

theorem action_script {name : String} {arity : Arity} {action : Action} {line : Nat}
    {args : List Value} (confined : c.call (.procedure (.primitive name arity action)) line args) :
    c.script (action.script line args) := by
  obtain ⟨values,lines⟩ := confined
  obtain ⟨itself,given⟩ := values_cons.1 values
  have procedure : c.procedure (.primitive name arity action) :=
    itself _ (by simp [Value.proceduresOf,Value.procedures,Procedure.held])
  have forward : ∀ other, c.line other → c.call (args.headD .nil) other args.tail :=
    fun other allowed => ⟨values_cons.2 ⟨values_head given,values_tail given⟩,allowed⟩
  cases action with
  | first => exact values_head given
  | count => exact fun p member => by simp [Value.proceduresOf,Value.procedures] at member
  | collect => exact values_list.2 given
  | apply => exact ⟨forward line lines,fun _ result => result⟩
  | applyAt other =>
    exact ⟨forward other (kept.otherLine name arity other procedure),fun _ result => result⟩
  | map =>
    cases args with
    | nil => exact values_list.2 values_nil
    | cons head rest =>
      obtain ⟨callee,elements⟩ := values_cons.1 given
      exact each_script callee lines elements fun results confined => values_list.2 confined
  | reduce =>
    match args with
    | [] | [_] => exact fun p member => by simp [Value.proceduresOf,Value.procedures] at member
    | head :: acc :: later =>
      obtain ⟨callee,elements⟩ := values_cons.1 given
      obtain ⟨start,others⟩ := values_cons.1 elements
      exact along_script callee lines start others
  | attempt =>
    refine ⟨forward line lines,fun result confined => ?_⟩
    cases result with
    | ok v => exact confined
    | error e => exact fun p member => by simp [Outcome.told,Value.proceduresOf,Value.procedures] at member
  | constant value =>
    intro p member
    apply itself p
    simp only [Value.proceduresOf,Value.procedures,Procedure.held,Action.held,List.append_nil] at member ⊢
    exact List.mem_cons_of_mem _ member
  | fail kind message => exact kept.failure name arity kind message line procedure lines

omit kept in
theorem perform_confined {s : Script} (confined : c.script s)
    (inner : ∀ callee line args, i.apply callee line args ∈ (s.perform i).traces →
      c.call callee line args → c.outcome (i.apply callee line args).outcome) :
    c.outcome (s.perform i).result ∧ ∀ t ∈ (s.perform i).traces,
      ∃ callee line args, t = i.apply callee line args ∧ c.call callee line args := by
  induction s with
  | done result => exact ⟨confined,nofun⟩
  | call callee line args next ih =>
    obtain ⟨called,later⟩ := confined
    have first := inner callee line args List.mem_cons_self called
    obtain ⟨result,others⟩ := ih _ (later _ first) fun callee line args member =>
      inner callee line args (List.mem_cons_of_mem _ member)
    refine ⟨result,fun t member => ?_⟩
    rcases List.mem_cons.1 member with rfl | rest
    · exact ⟨callee,line,args,rfl,called⟩
    · exact others t rest

theorem apply_outcome {callee : Value} {line : Nat} {args : List Value}
    (confined : c.call callee line args) : c.outcome (i.apply callee line args).outcome := by
  induction callee, line, args using i.apply_induction with
  | uncallable callee line args other =>
    rw [i.apply_uncallable other]
    exact kept.uncallable callee other line confined.2
  | miscounted p line args rejected =>
    rw [i.apply_miscounted rejected]
    exact kept.miscounted p args.length rejected line confined.2
  | operator op line args =>
    rw [i.apply_operator]
    change c.outcome (op.call line args)
    cases result : op.call line args with
    | ok v =>
      obtain ⟨x,rfl⟩ := Operator.call_number result
      exact fun p member => by simp [Value.proceduresOf,Value.procedures] at member
    | error e => exact kept.operator op line args e confined.2 result
  | primitive name arity action line args admitted inner =>
    rw [i.apply_primitive admitted]
    exact (perform_confined (action_script kept confined) inner).1

theorem primitive_calls {name : String} {arity : Arity} {action : Action} {line : Nat}
    {args : List Value} (confined : c.call (.procedure (.primitive name arity action)) line args) :
    ∀ t ∈ ((action.script line args).perform i).traces,
      ∃ callee other given, t = i.apply callee other given ∧ c.call callee other given :=
  (perform_confined (action_script kept confined) fun _ _ _ _ called =>
    apply_outcome kept called).2

theorem calls_confined {callee : Value} {line : Nat} {args : List Value}
    (confined : c.call callee line args) :
    ∀ call ∈ (i.apply callee line args).calls, c.line call.span.line ∧ c.outcome call.outcome := by
  intro call member
  have root : c.line (i.apply callee line args).span.line ∧
      c.outcome (i.apply callee line args).outcome := by
    rw [i.apply_span]
    exact ⟨confined.2,apply_outcome kept confined⟩
  induction callee, line, args using i.apply_induction with
  | uncallable callee line args other =>
    rw [i.apply_uncallable other] at member root
    cases List.mem_singleton.1 member
    exact root
  | miscounted p line args rejected =>
    rw [i.apply_miscounted rejected] at member root
    cases List.mem_singleton.1 member
    exact root
  | operator op line args =>
    rw [i.apply_operator] at member root
    rcases List.mem_cons.1 member with rfl | within
    · exact root
    · cases List.mem_singleton.1 within
      exact root
  | primitive name arity action line args admitted inner =>
    have made := primitive_calls kept confined
    rw [i.apply_primitive admitted] at member root
    rcases List.mem_cons.1 member with rfl | within
    · exact root
    · obtain ⟨trace,among,below⟩ := Trace.mem_callsOf.1 within
      obtain ⟨callee,other,given,rfl,called⟩ := made trace among
      refine inner callee other given among called below ?_
      rw [i.apply_span]
      exact ⟨called.2,apply_outcome kept called⟩

end Confinement
end LispCalls
