import LispCalls.Proofs.Calls

namespace LispCalls

inductive SpanTree where
  | node (span : Span) (within : List SpanTree) (outcome : Outcome)

namespace SpanTree

def span : SpanTree → Span
  | .node span _ _ => span

def within : SpanTree → List SpanTree
  | .node _ within _ => within

def outcome : SpanTree → Outcome
  | .node _ _ outcome => outcome

mutual
def log : SpanTree → List Entry
  | .node span within outcome => enclosed span (logs within) outcome
def logs : List SpanTree → List Entry
  | [] => []
  | tree :: rest => log tree ++ logs rest
end

-- Reads a log from its beginning. Of the spans that are open the last one stands first, each
-- with what was read before it began. An end is held against the name of that span, which is
-- all that a written log tells of it. Anything but spans is refused.
def readFrom : List (Span × List SpanTree) → List SpanTree → List Entry → Option (List SpanTree)
  | [],done,[] => some done
  | begun,done,.opened span :: rest => readFrom ((span,done) :: begun) [] rest
  | (span,before) :: begun,done,.closed other outcome :: rest =>
    if other.name = span.name then readFrom begun (before ++ [.node span done outcome]) rest
    else none
  | _,_,_ => none

def read? (entries : List Entry) : Option (List SpanTree) := readFrom [] [] entries

mutual
theorem readFrom_log : ∀ (tree : SpanTree) (begun : List (Span × List SpanTree))
    (done : List SpanTree) (rest : List Entry),
    readFrom begun done (tree.log ++ rest) = readFrom begun (done ++ [tree]) rest
  | .node span within outcome,begun,done,rest => by
    have inside := readFrom_logs within ((span,done) :: begun) [] (.closed span outcome :: rest)
    simp only [log,enclosed,List.cons_append,List.append_assoc,List.nil_append,readFrom] at inside ⊢
    rw [inside]
    simp
theorem readFrom_logs : ∀ (trees : List SpanTree) (begun : List (Span × List SpanTree))
    (done : List SpanTree) (rest : List Entry),
    readFrom begun done (logs trees ++ rest) = readFrom begun (done ++ trees) rest
  | [],begun,done,rest => by simp [logs]
  | tree :: trees,begun,done,rest => by
    rw [logs,List.append_assoc,readFrom_log tree,readFrom_logs trees,List.append_assoc]
    rfl
end

theorem read_logs (trees : List SpanTree) : read? (logs trees) = some trees := by
  have all := readFrom_logs trees [] [] []
  rwa [List.append_nil,List.nil_append,readFrom] at all

mutual
def all : SpanTree → List SpanTree
  | .node span within outcome => .node span within outcome :: allOf within
def allOf : List SpanTree → List SpanTree
  | [] => []
  | tree :: rest => all tree ++ allOf rest
end

@[simp] theorem all_self (tree : SpanTree) : tree ∈ tree.all := by
  cases tree
  simp [all]

mutual
theorem enclosing : ∀ {root tree : SpanTree}, tree ∈ root.all →
    tree = root ∨ ∃ outer ∈ root.all, tree ∈ outer.within
  | .node span trees outcome,tree,member => by
    rcases List.mem_cons.1 member with rfl | nested
    · exact .inl rfl
    rcases enclosingOf nested with top | ⟨outer,among,child⟩
    · exact .inr ⟨.node span trees outcome,all_self _,top⟩
    · exact .inr ⟨outer,List.mem_cons_of_mem _ among,child⟩
theorem enclosingOf : ∀ {trees : List SpanTree} {tree : SpanTree}, tree ∈ allOf trees →
    tree ∈ trees ∨ ∃ outer ∈ allOf trees, tree ∈ outer.within
  | top :: rest,tree,member => by
    rcases List.mem_append.1 member with first | later
    · rcases enclosing first with rfl | ⟨outer,among,child⟩
      · exact .inl List.mem_cons_self
      · exact .inr ⟨outer,List.mem_append_left _ among,child⟩
    · rcases enclosingOf later with top | ⟨outer,among,child⟩
      · exact .inl (List.mem_cons_of_mem _ top)
      · exact .inr ⟨outer,List.mem_append_right _ among,child⟩
end

end SpanTree

namespace Trace

mutual
def tree : Trace → SpanTree
  | .refused callee line args fault =>
    .node (.apply callee args.length line) [] (.error (fault.onLine line))
  | .entered p line args inner outcome =>
    .node (.apply (.procedure p) args.length line) (trees inner) outcome
  | .computed op line args outcome => .node (.compute op args.length line) [] outcome
def trees : List Trace → List SpanTree
  | [] => []
  | trace :: rest => tree trace :: trees rest
end

@[simp] theorem tree_span (trace : Trace) : trace.tree.span = trace.span := by
  cases trace <;> rfl

mutual
theorem tree_log : ∀ trace : Trace, trace.tree.log = trace.log
  | .refused _ _ _ _ | .computed _ _ _ _ => rfl
  | .entered _ _ _ inner _ => by simp only [tree,SpanTree.log,log,trees_logs inner]
theorem trees_logs : ∀ traces : List Trace, SpanTree.logs (trees traces) = logs traces
  | [] => rfl
  | trace :: rest => by simp only [trees,SpanTree.logs,logs,tree_log trace,trees_logs rest]
end

@[simp] theorem mem_trees {tree : SpanTree} {traces : List Trace} :
    tree ∈ trees traces ↔ ∃ trace ∈ traces, tree = trace.tree := by
  induction traces with
  | nil => simp [trees]
  | cons trace rest ih => simp [trees,ih]

mutual
theorem calls_tree : ∀ {run : Trace} {tree : SpanTree}, tree ∈ run.tree.all →
    ∃ call ∈ run.calls, tree = call.tree
  | .refused .., tree, member | .computed .., tree, member => by
    cases List.mem_singleton.1 member
    exact ⟨_,calls_self _,rfl⟩
  | .entered p line args inner outcome, tree, member => by
    rcases List.mem_cons.1 member with rfl | nested
    · exact ⟨_,calls_self _,rfl⟩
    · obtain ⟨call,among,same⟩ := calls_trees nested
      exact ⟨call,List.mem_cons_of_mem _ among,same⟩
theorem calls_trees : ∀ {traces : List Trace} {tree : SpanTree},
    tree ∈ SpanTree.allOf (trees traces) → ∃ call ∈ callsOf traces, tree = call.tree
  | trace :: rest, tree, member => by
    rcases List.mem_append.1 member with first | later
    · obtain ⟨call,among,same⟩ := calls_tree first
      exact ⟨call,List.mem_append_left _ among,same⟩
    · obtain ⟨call,among,same⟩ := calls_trees later
      exact ⟨call,List.mem_append_right _ among,same⟩
end

theorem read_log (trace : Trace) : SpanTree.read? trace.log = some [trace.tree] := by
  have written : SpanTree.logs [trace.tree] = trace.log := by
    rw [SpanTree.logs,tree_log]
    exact List.append_nil _
  rw [← written]
  exact SpanTree.read_logs _

end Trace

-- What a span may be and what may stand within it: nothing within a computation or a refused
-- application, one computation within an operator's, applications within a primitive's.
inductive Dispatched (i : Interpreter) : SpanTree → Prop where
  | computed {op : Operator} {count line : Nat} {outcome : Outcome} :
      Dispatched i (.node (.compute op count line) [] outcome)
  | uncallable {callee : Value} {count line : Nat} (other : callee.procedure? = none) :
      Dispatched i (.node (.apply callee count line) []
        (.error ((Fault.notCallable callee.typeName).onLine line)))
  | miscounted {p : Procedure} {count line : Nat} (rejected : i.admits p count = false) :
      Dispatched i (.node (.apply (.procedure p) count line) []
        (.error ((Fault.argumentCount p.name p.arity count).onLine line)))
  | operator {op : Operator} {count line : Nat} {outcome : Outcome} :
      Dispatched i (.node (.apply (.procedure (.operator op)) count line)
        [.node (.compute op count line) [] outcome] outcome)
  | primitive {name : String} {arity : Arity} {action : Action} {count line : Nat}
      {within : List SpanTree} {outcome : Outcome}
      (admitted : i.admits (.primitive name arity action) count = true)
      (applications : ∀ child ∈ within, ∃ callee count line, child.span = .apply callee count line) :
      Dispatched i (.node (.apply (.procedure (.primitive name arity action)) count line)
        within outcome)

namespace Interpreter

variable (i : Interpreter)

theorem apply_dispatched (callee : Value) (line : Nat) (args : List Value) :
    Dispatched i (i.apply callee line args).tree := by
  induction callee, line, args using i.apply_induction with
  | uncallable callee line args other =>
    rw [i.apply_uncallable other]
    exact .uncallable other
  | miscounted p line args rejected =>
    rw [i.apply_miscounted rejected]
    exact .miscounted rejected
  | operator op line args =>
    rw [i.apply_operator]
    exact .operator
  | primitive name arity action line args admitted inner =>
    rw [i.apply_primitive admitted]
    refine .primitive admitted fun child member => ?_
    obtain ⟨trace,made,rfl⟩ := Trace.mem_trees.1 member
    obtain ⟨callee,other,given,rfl⟩ := (action.script line args).perform_calls trace made
    exact ⟨callee,given.length,other,by simp⟩

theorem all_dispatched (callee : Value) (line : Nat) (args : List Value) :
    ∀ tree ∈ (i.apply callee line args).tree.all, Dispatched i tree := by
  intro tree member
  obtain ⟨call,among,rfl⟩ := Trace.calls_tree member
  rcases i.calls_exact callee line args among with ⟨op,other,given,rfl⟩ | ⟨callee,other,given,rfl⟩
  · exact .computed
  · exact i.apply_dispatched callee other given

theorem callSymbol_log (line : Nat) (symbol : String) (args : List Value) :
    (i.callSymbol line symbol args).log = match i.table.get? symbol with
      | none => []
      | some p => (i.apply (.procedure p) line args).log := by
  rw [i.callSymbol_lookup]
  cases i.table.get? symbol with
  | none => rfl
  | some p => exact Run.ofTrace_log _

end Interpreter

namespace Dispatched

variable {i : Interpreter} {tree : SpanTree} (dispatched : Dispatched i tree)

include dispatched

theorem computation {op : Operator} {count line : Nat} (span : tree.span = .compute op count line) :
    tree.within = [] := by
  cases dispatched with
  | computed => rfl
  | uncallable | miscounted | operator | primitive => cases span

theorem above {child : SpanTree} (member : child ∈ tree.within) {op : Operator} {count line : Nat}
    (span : child.span = .compute op count line) :
    ∃ outer : Value, tree.span = .apply outer count line ∧
      outer.text = "<builtin " ++ op.symbol ++ ">" := by
  cases dispatched with
  | computed | uncallable | miscounted => cases member
  | operator =>
    cases List.mem_singleton.1 member
    cases span
    exact ⟨_,rfl,by simp only [Value.text]; rfl⟩
  | primitive admitted applications =>
    obtain ⟨callee,other,at_,applied⟩ := applications child member
    rw [applied] at span
    cases span

theorem operation {op : Operator} {count line : Nat}
    (span : tree.span = .apply (.procedure (.operator op)) count line) :
    tree.within = [.node (.compute op count line) [] tree.outcome] := by
  cases dispatched with
  | computed => cases span
  | uncallable other =>
    cases span
    cases other
  | miscounted rejected =>
    cases span
    simp at rejected
  | operator =>
    cases span
    rfl
  | primitive => cases span

theorem uncalled {callee : Value} {count line : Nat} (span : tree.span = .apply callee count line)
    (other : callee.procedure? = none) : tree.within = [] ∧
      tree.outcome = .error ((Fault.notCallable callee.typeName).onLine line) := by
  cases dispatched with
  | computed => cases span
  | uncallable =>
    cases span
    exact ⟨rfl,rfl⟩
  | miscounted | operator | primitive =>
    cases span
    cases other

theorem unadmitted {p : Procedure} {count line : Nat}
    (span : tree.span = .apply (.procedure p) count line) (rejected : i.admits p count = false) :
    tree.within = [] ∧
      tree.outcome = .error ((Fault.argumentCount p.name p.arity count).onLine line) := by
  cases dispatched with
  | computed => cases span
  | uncallable other =>
    cases span
    cases other
  | miscounted =>
    cases span
    exact ⟨rfl,rfl⟩
  | operator =>
    cases span
    simp at rejected
  | primitive admitted =>
    cases span
    rw [admitted] at rejected
    cases rejected

theorem reentry {name : String} {arity : Arity} {action : Action} {count line : Nat}
    (span : tree.span = .apply (.procedure (.primitive name arity action)) count line) :
    ∀ child ∈ tree.within, ∃ callee count line, child.span = .apply callee count line := by
  cases dispatched with
  | computed | operator => cases span
  | uncallable | miscounted => exact nofun
  | primitive admitted applications =>
    cases span
    exact applications

end Dispatched

theorem log_nests_dispatch (i : Interpreter) (line : Nat) (args : List Value) :
    (∀ callee, let entries := (i.apply callee line args).log
      ∃ root : SpanTree, SpanTree.read? entries = some [root] ∧ root.log = entries ∧
        root.span = .apply callee args.length line ∧
        root.span.details = [("callee",.text callee.text),("argc",.count args.length),
          ("line",.text (toString line))] ∧
        ∀ tree ∈ root.all,
          (∀ op count other, tree.span = .compute op count other →
            tree.within = [] ∧ ∃ outer ∈ root.all, tree ∈ outer.within) ∧
          (∀ child ∈ tree.within, ∀ op count other, child.span = .compute op count other →
            ∃ outer : Value, tree.span = .apply outer count other ∧
              outer.text = "<builtin " ++ op.symbol ++ ">") ∧
          (∀ op count other, tree.span = .apply (.procedure (.operator op)) count other →
            tree.within = [.node (.compute op count other) [] tree.outcome]) ∧
          (∀ inner count other, tree.span = .apply inner count other → inner.procedure? = none →
            tree.within = [] ∧
              tree.outcome = .error ((Fault.notCallable inner.typeName).onLine other)) ∧
          (∀ p count other, tree.span = .apply (.procedure p) count other →
            i.settings.checkArity = true → p.arity.accepts count = false →
            tree.within = [] ∧
              tree.outcome = .error ((Fault.argumentCount p.name p.arity count).onLine other)) ∧
          ∀ name arity action count other,
            tree.span = .apply (.procedure (.primitive name arity action)) count other →
            ∀ child ∈ tree.within, ∃ inner given at_, child.span = .apply inner given at_) ∧
    ∀ symbol, (Run.ofResult (i.resolve line symbol)).log = [] ∧
      (i.callSymbol line symbol args).log = match i.table.get? symbol with
        | none => []
        | some p => (i.apply (.procedure p) line args).log := by
  refine ⟨fun callee => ?_,fun symbol => ⟨rfl,i.callSymbol_log line symbol args⟩⟩
  have span : (i.apply callee line args).tree.span = .apply callee args.length line := by
    simp
  refine ⟨(i.apply callee line args).tree,Trace.read_log _,Trace.tree_log _,span,by rw [span]; rfl,?_⟩
  intro tree member
  have dispatched : Dispatched i tree := i.all_dispatched callee line args tree member
  refine ⟨?_,?_,?_,?_,?_,?_⟩
  · intro op count other computes
    refine ⟨dispatched.computation computes,?_⟩
    rcases SpanTree.enclosing member with rfl | outer
    · rw [span] at computes
      cases computes
    · exact outer
  · intro child inside op count other computes
    exact dispatched.above inside computes
  · intro op count other applies
    exact dispatched.operation applies
  · intro inner count other applies uncallable
    exact dispatched.uncalled applies uncallable
  · intro p count other applies checks miscounted
    exact dispatched.unadmitted applies (by rw [Interpreter.admits,checks,miscounted]; rfl)
  · intro name arity action count other applies
    exact dispatched.reentry applies

end LispCalls
