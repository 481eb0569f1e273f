import LispCalls.Proofs.Calls

namespace LispCalls

def around (spans : List Span) (within : List Entry) (outcome : Outcome) : List Entry :=
  spans.map .opened ++ within ++ spans.reverse.map (.closed · outcome)

@[simp] theorem around_cons (span : Span) (spans : List Span) (within : List Entry) (outcome : Outcome) :
    around (span :: spans) within outcome = enclosed span (around spans within outcome) outcome := by
  simp [around,enclosed]

theorem opened_around {span : Span} {spans : List Span} {outcome : Outcome}
    (opens : .opened span ∈ around spans [] outcome) : span ∈ spans := by
  simpa [around] using opens

theorem Trace.calls_open {call run : Trace} (member : call ∈ run.calls) :
    .opened call.span ∈ run.log := by
  obtain ⟨before,after,logged⟩ := calls_logged member
  have opens : .opened call.span ∈ call.log := by cases call <;> exact List.mem_cons_self
  rw [logged]
  exact List.mem_append_left _ (List.mem_append_right _ opens)

structure Forwarder where
  name : String
  arity : Arity

namespace Forwarder

def procedure (f : Forwarder) : Procedure := .primitive f.name f.arity .apply

def value (f : Forwarder) : Value := .procedure f.procedure

-- What the forwarder at a place of a chain is given, if at the end of the chain a value is called
-- with so many arguments: the forwarders after it, that value, and its arguments.
def given (chain : List Forwarder) (count place : Nat) : Nat := chain.length - place + count

@[simp] theorem given_first (f : Forwarder) (chain : List Forwarder) (count : Nat) :
    given (f :: chain) count 0 = chain.length + 1 + count := rfl

@[simp] theorem given_later (f : Forwarder) (chain : List Forwarder) (count place : Nat) :
    given (f :: chain) count (place + 1) = given chain count place := by
  simp only [given,List.length_cons,Nat.add_sub_add_right]

def spans (chain : List Forwarder) (line count : Nat) : List Span :=
  chain.mapIdx fun place f => .apply f.value (given chain count place) line

@[simp] theorem spans_cons (f : Forwarder) (chain : List Forwarder) (line count : Nat) :
    spans (f :: chain) line count =
      .apply f.value (chain.length + 1 + count) line :: spans chain line count := by
  simp [spans]

theorem mem_spans {chain : List Forwarder} {line count : Nat} {span : Span}
    (member : span ∈ spans chain line count) :
    ∃ f given, span = .apply f given line ∧ count < given := by
  obtain ⟨place,within,rfl⟩ := List.mem_mapIdx.1 member
  refine ⟨_,_,rfl,?_⟩
  unfold given
  omega

def Accepted (chain : List Forwarder) (count : Nat) : Prop :=
  ∀ place (f : Forwarder), chain[place]? = some f →
    f.arity.accepts (given chain count place) = true

structure RefusedFirst (chain : List Forwarder) (count place : Nat) (f : Forwarder) : Prop where
  stands : chain[place]? = some f
  refuses : f.arity.accepts (given chain count place) = false
  earlier : ∀ before < place, ∀ g : Forwarder, chain[before]? = some g →
    g.arity.accepts (given chain count before) = true

theorem accepted_cons {f : Forwarder} {chain : List Forwarder} {count : Nat} :
    Accepted (f :: chain) count ↔
      f.arity.accepts (chain.length + 1 + count) = true ∧ Accepted chain count := by
  constructor
  · intro accepted
    refine ⟨by simpa using accepted 0 f rfl,fun place g stands => ?_⟩
    simpa using accepted (place + 1) g stands
  · rintro ⟨first,later⟩ place g stands
    cases place with
    | zero =>
      cases Option.some.inj stands
      simpa using first
    | succ place => simpa using later place g stands

theorem refusedFirst_here {f : Forwarder} {chain : List Forwarder} {count : Nat}
    (refuses : f.arity.accepts (chain.length + 1 + count) = false) :
    RefusedFirst (f :: chain) count 0 f :=
  ⟨rfl,refuses,fun _ before => absurd before (Nat.not_lt_zero _)⟩

theorem refusedFirst_later {f g : Forwarder} {chain : List Forwarder} {count place : Nat} :
    RefusedFirst (f :: chain) count (place + 1) g ↔
      f.arity.accepts (chain.length + 1 + count) = true ∧ RefusedFirst chain count place g := by
  constructor
  · rintro ⟨stands,refuses,earlier⟩
    refine ⟨by simpa using earlier 0 (Nat.succ_pos place) f rfl,stands,by simpa using refuses,
      fun before less h found => ?_⟩
    simpa using earlier (before + 1) (Nat.succ_lt_succ less) h found
  · rintro ⟨first,stands,refuses,earlier⟩
    refine ⟨stands,by simpa using refuses,fun before less h found => ?_⟩
    cases before with
    | zero =>
      cases Option.some.inj found
      simpa using first
    | succ before => simpa using earlier before (Nat.lt_of_succ_lt_succ less) h found

theorem accepted_or_refused (chain : List Forwarder) (count : Nat) :
    Accepted chain count ∨ ∃ place f, RefusedFirst chain count place f := by
  induction chain with
  | nil => exact .inl nofun
  | cons f chain ih =>
    cases first : f.arity.accepts (chain.length + 1 + count) with
    | false => exact .inr ⟨0,f,refusedFirst_here first⟩
    | true =>
      rcases ih with accepted | ⟨place,g,refused⟩
      · exact .inl (accepted_cons.2 ⟨first,accepted⟩)
      · exact .inr ⟨place + 1,g,refusedFirst_later.2 ⟨first,refused⟩⟩

def callThrough (i : Interpreter) (line : Nat) (v : Value) (args : List Value) :
    List Forwarder → Trace
  | [] => i.apply v line args
  | f :: chain => i.apply f.value line (chain.map value ++ v :: args)

section Calls

variable {i : Interpreter} {line : Nat} {v : Value} {args : List Value} {f : Forwarder}
  {chain : List Forwarder}

@[simp] theorem arguments_length (chain : List Forwarder) (v : Value) (args : List Value) :
    (chain.map value ++ v :: args).length = chain.length + 1 + args.length := by
  simp only [List.length_append,List.length_map,List.length_cons]
  omega

theorem forwards (admitted : i.admits f.procedure (chain.length + 1 + args.length) = true) :
    callThrough i line v args (f :: chain) =
      .entered f.procedure line (chain.map value ++ v :: args) [callThrough i line v args chain]
        (callThrough i line v args chain).outcome := by
  rw [← arguments_length chain v args] at admitted
  cases chain with
  | nil => exact i.apply_primitive admitted line
  | cons g chain => exact i.apply_primitive admitted line

theorem refuses (rejected : i.admits f.procedure (chain.length + 1 + args.length) = false) :
    callThrough i line v args (f :: chain) =
      .refused f.value line (chain.map value ++ v :: args)
        (.argumentCount f.name f.arity (chain.length + 1 + args.length)) := by
  rw [← arguments_length chain v args] at rejected ⊢
  exact i.apply_miscounted rejected line

variable (i line v args)

theorem callThrough_accepted (passes : i.settings.checkArity = false ∨ Accepted chain args.length) :
    (callThrough i line v args chain).outcome = (i.apply v line args).outcome ∧
      (callThrough i line v args chain).log =
        around (spans chain line args.length) (i.apply v line args).log
          (i.apply v line args).outcome := by
  induction chain with
  | nil => exact ⟨rfl,(List.append_nil _).symm⟩
  | cons f chain ih =>
    have admitted : i.admits f.procedure (chain.length + 1 + args.length) = true := by
      rcases passes with unchecked | accepted
      · simp [Interpreter.admits,unchecked]
      · have first := (accepted_cons.1 accepted).1
        simp [Interpreter.admits,procedure,Procedure.arity,first]
    obtain ⟨outcome,logged⟩ := ih (passes.imp id fun accepted => (accepted_cons.1 accepted).2)
    rw [forwards admitted]
    refine ⟨outcome,?_⟩
    rw [spans_cons,around_cons,← logged,← outcome]
    simp only [Trace.log,Trace.logs,List.append_nil,arguments_length]
    rfl

variable {i}

theorem callThrough_refused {place : Nat} (checks : i.settings.checkArity = true)
    (refused : RefusedFirst chain args.length place f) :
    let error := (Fault.argumentCount f.name f.arity (given chain args.length place)).onLine line
    (callThrough i line v args chain).outcome = .error error ∧
      (callThrough i line v args chain).log =
        around ((spans chain line args.length).take (place + 1)) [] (.error error) := by
  induction chain generalizing place with
  | nil => cases refused.stands
  | cons g chain ih =>
    rw [spans_cons,List.take_succ_cons]
    cases place with
    | zero =>
      cases Option.some.inj refused.stands
      have first := refused.refuses
      rw [given_first] at first
      have rejected : i.admits f.procedure (chain.length + 1 + args.length) = false := by
        simp [Interpreter.admits,checks,procedure,Procedure.arity,first]
      rw [Forwarder.refuses rejected]
      refine ⟨rfl,?_⟩
      simp only [Trace.log,arguments_length]
      rfl
    | succ place =>
      obtain ⟨first,later⟩ := refusedFirst_later.1 refused
      have admitted : i.admits g.procedure (chain.length + 1 + args.length) = true := by
        simp [Interpreter.admits,procedure,Procedure.arity,first]
      obtain ⟨outcome,logged⟩ := ih later
      rw [forwards admitted,given_later]
      refine ⟨outcome,?_⟩
      rw [around_cons,← logged,← outcome]
      simp only [Trace.log,Trace.logs,List.append_nil,arguments_length]
      rfl

end Calls

end Forwarder

-- A chain of forwarders shows nothing of itself but its spans, unless one of them refuses what it
-- is given. Then the first that does ends the run, and what stands at the end of the chain is
-- not called.
theorem chains_forward (i : Interpreter) (line : Nat) (first : Forwarder)
    (later : List Forwarder) (v : Value) (args : List Value) :
    let chain := first :: later
    let run := i.apply first.value line (later.map Forwarder.value ++ v :: args)
    let direct := i.apply v line args
    let spans := Forwarder.spans chain line args.length
    let passes := i.settings.checkArity = false ∨ Forwarder.Accepted chain args.length
    (passes → run.outcome = direct.outcome ∧
      run.log = around spans direct.log direct.outcome) ∧
    (¬passes → ∃ place f, Forwarder.RefusedFirst chain args.length place f ∧
      let given := Forwarder.given chain args.length place
      let error := (Fault.argumentCount f.name f.arity given).onLine line
      run.outcome = .error error ∧ run.log = around (spans.take (place + 1)) [] (.error error) ∧
        ∀ call ∈ run.calls, call.span ≠ .apply v args.length line) := by
  intro chain run direct spans passes
  refine ⟨Forwarder.callThrough_accepted i line v args,fun refuses => ?_⟩
  obtain ⟨checks,unaccepted⟩ := not_or.1 refuses
  obtain ⟨place,f,refused⟩ := (Forwarder.accepted_or_refused chain args.length).resolve_left unaccepted
  obtain ⟨outcome,logged⟩ := Forwarder.callThrough_refused line v args
    (Bool.not_eq_false _ ▸ checks) refused
  refine ⟨place,f,refused,outcome,logged,fun call member same => ?_⟩
  -- Every call of the run is one of the chain, and each of them is given more than the arguments.
  have opens : .opened call.span ∈ run.log := Trace.calls_open member
  have among := List.mem_of_mem_take (opened_around (logged ▸ opens))
  obtain ⟨g,given,spanned,more⟩ := Forwarder.mem_spans among
  cases spanned.symm.trans same
  exact Nat.lt_irrefl _ more

end LispCalls
