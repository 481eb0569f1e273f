import LispCalls.Proofs.Calls

namespace LispCalls

mutual
def Trace.depth : Trace → Nat
  | .refused _ _ _ _ => 1
  | .entered _ _ _ inner _ => Trace.depths inner + 1
  | .computed _ _ _ _ => 0
def Trace.depths : List Trace → Nat
  | [] => 0
  | trace :: rest => max trace.depth (Trace.depths rest)
end

theorem Trace.depths_le {traces : List Trace} {limit : Nat} :
    depths traces ≤ limit ↔ ∀ trace ∈ traces, trace.depth ≤ limit := by
  induction traces with
  | nil => simp [depths]
  | cons trace rest ih =>
    rw [depths,Nat.max_le,ih]
    simp

namespace Script

def Asks (allowed : Value → Nat → List Value → Prop) : Script → Prop
  | .done _ => True
  | .call callee line args next =>
    allowed callee line args ∧ ∀ outcome, (next outcome).Asks allowed

theorem perform_asked {allowed : Value → Nat → List Value → Prop} {i : Interpreter} {s : Script}
    (asks : s.Asks allowed) : ∀ trace ∈ (s.perform i).traces,
      ∃ callee line args, trace = i.apply callee line args ∧ allowed callee line args := by
  induction s with
  | done outcome => exact nofun
  | call callee line args next ih =>
    obtain ⟨first,later⟩ := asks
    intro trace member
    rcases List.mem_cons.1 member with rfl | rest
    · exact ⟨callee,line,args,rfl,first⟩
    · exact ih _ (later _) trace rest

def Below (limit : Nat) (callee : Value) (_line : Nat) (args : List Value) : Prop :=
  Value.callBound callee args < limit

theorem onSuccess_asks {allowed : Value → Nat → List Value → Prop} {next : Value → Script}
    (later : ∀ v, (next v).Asks allowed) (outcome : Outcome) :
    (onSuccess next outcome).Asks allowed := by
  cases outcome with
  | ok v => exact later v
  | error e => trivial

theorem each_below {limit : Nat} {head : Value} {line : Nat} {rest : List Value}
    {finish : List Value → Script} (room : Value.weights rest + 2 < limit)
    (finished : ∀ values, (finish values).Asks (Below limit)) :
    (each head line rest finish).Asks (Below limit) := by
  induction rest generalizing finish with
  | nil => exact finished []
  | cons v rest ih =>
    have element : Value.callBound head v.spread ≤ Value.weights (v :: rest) + 2 :=
      Value.callBound_spread head v rest
    have shorter : Value.weights rest < Value.weights (v :: rest) := Value.weights_tail v rest
    refine ⟨Nat.lt_of_le_of_lt element room,onSuccess_asks fun w => ?_⟩
    exact ih (by omega) fun values => finished (w :: values)

-- The running result may be of any size: it is only ever the first of two arguments.
theorem along_below {limit : Nat} {head : Value} {line : Nat} {acc : Value} {later : List Value}
    (room : Value.weights later + 3 < limit) : (along head line acc later).Asks (Below limit) := by
  induction later generalizing acc with
  | nil => trivial
  | cons v later ih =>
    have pair : Value.callBound head [acc,v] ≤ Value.weights (v :: later) + 3 :=
      Value.callBound_pair head acc v later
    have shorter : Value.weights later < Value.weights (v :: later) := Value.weights_tail v later
    refine ⟨Nat.lt_of_le_of_lt pair room,onSuccess_asks fun next => ?_⟩
    exact ih (by omega)

end Script

theorem Action.script_below (action : Action) (line : Nat) (args : List Value) :
    (action.script line args).Asks (Script.Below (Value.depthBound args)) := by
  have forward : Value.callBound (args.headD .nil) args.tail < Value.depthBound args :=
    Value.callBound_forward args
  cases action with
  | apply | applyAt | attempt => exact ⟨forward,fun _ => trivial⟩
  | map =>
    cases args with
    | nil => trivial
    | cons head rest => exact Script.each_below (Nat.lt_succ_self _) fun _ => trivial
  | reduce =>
    match args with
    | [] | [_] => trivial
    | head :: acc :: later =>
      exact Script.along_below (Nat.add_lt_add_right (Value.weights_tail acc later) 3)
  | _ => trivial

theorem Value.depthBound_pos (args : List Value) : 1 ≤ depthBound args := by
  cases args <;> simp [depthBound]

theorem Value.depthBound_le (args : List Value) : depthBound args ≤ weights args.tail + 3 := by
  cases args <;> simp [depthBound,weights]

namespace Interpreter

variable (i : Interpreter)

theorem apply_depth (callee : Value) (line : Nat) (args : List Value) :
    (i.apply callee line args).depth ≤ Value.callBound callee args := by
  induction callee, line, args using i.apply_induction with
  | uncallable callee line args other =>
    rw [i.apply_uncallable other]
    cases callee with
    | procedure p => cases other
    | _ => exact Nat.le_refl 1
  | miscounted p line args rejected =>
    rw [i.apply_miscounted rejected]
    exact Value.depthBound_pos args
  | operator op line args =>
    rw [i.apply_operator]
    exact Value.depthBound_pos args
  | primitive name arity action line args admitted inner =>
    rw [i.apply_primitive admitted]
    refine Nat.add_le_of_le_sub (Value.depthBound_pos args) (Trace.depths_le.2 fun trace made => ?_)
    obtain ⟨callee,other,given,rfl,below⟩ :=
      Script.perform_asked (action.script_below line args) trace made
    exact Nat.le_sub_one_of_lt (Nat.lt_of_le_of_lt (inner callee other given made) below)

end Interpreter

def Script.performBy (call : Value → Nat → List Value → Option Trace) : Script → Option (Run Value)
  | .done outcome => some (.ofResult outcome)
  | .call callee line args next => do
    let trace ← call callee line args
    let rest ← (next trace.outcome).performBy call
    return ⟨trace :: rest.traces,rest.result⟩

-- An interpreter that has room for so many applications within one another and gives up
-- when it needs more. It goes by the room alone, so it always comes to an end.
def Interpreter.applyWithin (i : Interpreter) : Nat → Value → Nat → List Value → Option Trace
  | 0,_,_,_ => none
  | room + 1,callee,line,args =>
    match callee with
    | .procedure p =>
      if i.admits p args.length then
        match p with
        | .operator op =>
          let outcome := op.call line args
          some (.entered p line args [.computed op line args outcome] outcome)
        | .primitive _ _ action => do
          let run ← (action.script line args).performBy (i.applyWithin room)
          return .entered p line args run.traces run.result
      else some (.refused callee line args (.argumentCount p.name p.arity args.length))
    | _ => some (.refused callee line args (.notCallable callee.typeName))

theorem Script.performBy_exact {i : Interpreter} {room : Nat}
    {call : Value → Nat → List Value → Option Trace} {s : Script}
    (answers : ∀ callee line args, i.apply callee line args ∈ (s.perform i).traces →
      call callee line args =
        if (i.apply callee line args).depth ≤ room then some (i.apply callee line args) else none) :
    s.performBy call =
      if Trace.depths (s.perform i).traces ≤ room then some (s.perform i) else none := by
  induction s with
  | done outcome => exact (if_pos (Nat.zero_le room)).symm
  | call callee line args next ih =>
    let trace := i.apply callee line args
    have first : call callee line args = if trace.depth ≤ room then some trace else none :=
      answers callee line args List.mem_cons_self
    have rest := ih trace.outcome fun callee line args member =>
      answers callee line args (List.mem_cons_of_mem _ member)
    have deepest : Trace.depths ((Script.call callee line args next).perform i).traces =
        max trace.depth (Trace.depths ((next trace.outcome).perform i).traces) := rfl
    simp only [performBy,first,deepest,Nat.max_le]
    by_cases fits : trace.depth ≤ room
    · simp only [fits,if_true,true_and,Option.bind_eq_bind,Option.bind_some,rest]
      split <;> rfl
    · simp only [fits,if_false,false_and]
      rfl

theorem Interpreter.applyWithin_exact (i : Interpreter) (room : Nat) (callee : Value) (line : Nat)
    (args : List Value) : i.applyWithin room callee line args =
      if (i.apply callee line args).depth ≤ room then some (i.apply callee line args) else none := by
  induction callee, line, args using i.apply_induction generalizing room with
  | uncallable callee line args other =>
    rw [i.apply_uncallable other]
    cases room with
    | zero => rfl
    | succ left =>
      cases callee with
      | procedure p => cases other
      | _ => exact (if_pos (Nat.le_add_left 1 left)).symm
  | miscounted p line args rejected =>
    rw [i.apply_miscounted rejected]
    cases room with
    | zero => rfl
    | succ left => simp [applyWithin,rejected,Trace.depth]
  | operator op line args =>
    rw [i.apply_operator]
    cases room with
    | zero => rfl
    | succ left => simp [applyWithin,Trace.depth,Trace.depths]
  | primitive name arity action line args admitted inner =>
    rw [i.apply_primitive admitted]
    cases room with
    | zero => rfl
    | succ left =>
      have performed := Script.performBy_exact (s := action.script line args)
        fun callee other given made => inner callee other given made left
      simp only [applyWithin,admitted,if_true,performed,Trace.depth,Nat.add_le_add_iff_right]
      split <;> rfl

def Entry.applications : Entry → Int
  | .opened (.apply _ _ _) => 1
  | .closed (.apply _ _ _) _ => -1
  | _ => 0

def standing : List Entry → Int
  | [] => 0
  | entry :: rest => entry.applications + standing rest

@[simp] theorem standing_append (earlier later : List Entry) :
    standing (earlier ++ later) = standing earlier + standing later := by
  induction earlier with
  | nil => simp [standing]
  | cons entry rest ih => rw [List.cons_append,standing,standing,ih,Int.add_assoc]

structure Bounded (entries : List Entry) (limit : Nat) : Prop where
  settled : standing entries = 0
  reached : ∀ front, front <+: entries → standing front ≤ limit

namespace Bounded

theorem nothing (limit : Nat) : Bounded [] limit where
  settled := rfl
  reached front before := by
    rw [List.prefix_nil.1 before]
    exact Int.natCast_nonneg limit

theorem weaken {entries : List Entry} {limit other : Nat} (bounded : Bounded entries limit)
    (less : limit ≤ other) : Bounded entries other where
  settled := bounded.settled
  reached front before := Int.le_trans (bounded.reached front before) (Int.ofNat_le.2 less)

theorem append {earlier later : List Entry} {limit : Nat} (first : Bounded earlier limit)
    (second : Bounded later limit) : Bounded (earlier ++ later) limit where
  settled := by simp [first.settled,second.settled]
  reached front before := by
    rcases List.prefix_or_prefix_of_prefix before (List.prefix_append earlier later) with
      within | ⟨rest,rfl⟩
    · exact first.reached front within
    · have reached := second.reached rest ((List.prefix_append_right_inj earlier).1 before)
      simpa [first.settled] using reached

theorem enclosed {within : List Entry} {limit : Nat} (bounded : Bounded within limit)
    (span : Span) (outcome : Outcome) (more : Nat)
    (begins : (Entry.opened span).applications = more)
    (ends : (Entry.closed span outcome).applications = -more) :
    Bounded (enclosed span within outcome) (limit + more) where
  settled := by
    simp [LispCalls.enclosed,standing,bounded.settled,begins,ends,Int.add_right_neg]
  reached front before := by
    rcases List.prefix_cons_iff.1 before with rfl | ⟨rest,rfl,after⟩
    · exact Int.natCast_nonneg _
    rw [standing,begins]
    rcases List.prefix_concat_iff.1 after with rfl | inside
    · simp only [standing_append,standing,bounded.settled,ends]
      omega
    · have reached := bounded.reached rest inside
      omega

end Bounded

mutual
theorem Trace.log_bounded : ∀ trace : Trace, Bounded trace.log trace.depth
  | .refused callee line args _ =>
    (Bounded.nothing 0).enclosed (.apply callee args.length line) _ 1 rfl rfl
  | .entered p line args inner _ =>
    (Trace.logs_bounded inner).enclosed (.apply (.procedure p) args.length line) _ 1 rfl rfl
  | .computed op line args _ =>
    (Bounded.nothing 0).enclosed (.compute op args.length line) _ 0 rfl rfl
theorem Trace.logs_bounded : ∀ traces : List Trace, Bounded (logs traces) (depths traces)
  | [] => Bounded.nothing 0
  | trace :: rest =>
    ((Trace.log_bounded trace).weaken (Nat.le_max_left _ _)).append
      ((Trace.logs_bounded rest).weaken (Nat.le_max_right _ _))
end

-- A run comes to its end with room for three applications more than there are values after
-- the first argument, and its log never has more of them open than that.
theorem applications_nest_within (i : Interpreter) (callee : Value) (line : Nat)
    (args : List Value) :
    let run := i.apply callee line args
    let bound := Value.weights args.tail + 3
    i.applyWithin bound callee line args = some run ∧ run.depth ≤ bound ∧
      ∀ front, front <+: run.log → standing front ≤ bound := by
  intro run bound
  have deep : run.depth ≤ bound := calc
    run.depth ≤ Value.callBound callee args := i.apply_depth callee line args
    _ ≤ Value.depthBound args := Value.callBound_le callee args
    _ ≤ bound := Value.depthBound_le args
  have ends : i.applyWithin bound callee line args = some run := by
    rw [i.applyWithin_exact,if_pos deep]
  exact ⟨ends,deep,(run.log_bounded.weaken deep).reached⟩

end LispCalls
