import LispCalls.Proofs.Arithmetic
import LispCalls.Proofs.ArityCheck
import LispCalls.Proofs.Bindings

namespace LispCalls

namespace Table

@[simp] theorem get_append (libraries added : List Library) (symbol : String) :
    (ofLibraries (libraries ++ added)).1.get? symbol =
      ((ofLibraries added).1.get? symbol).or ((ofLibraries libraries).1.get? symbol) := by
  simp only [get_ofLibraries,List.flatMap_append,List.reverse_append,List.lookup_append]

theorem get_added {libraries added : List Library} {symbol : String}
    (unbound : ∀ row ∈ added.flatMap (·.entries), row.1 ≠ symbol) :
    (ofLibraries (libraries ++ added)).1.get? symbol =
      (ofLibraries libraries).1.get? symbol := by
  have absent : (ofLibraries added).1.get? symbol = none :=
    ((ofLibraries_holds added).unbound symbol).2 unbound
  simp [absent]

end Table

namespace Interpreter

theorem apply_table (settings : Settings) (table other : Table) (callee : Value) (line : Nat)
    (args : List Value) :
    (Interpreter.mk settings other).apply callee line args =
      (Interpreter.mk settings table).apply callee line args :=
  apply_settings ⟨settings,table⟩ ⟨settings,other⟩ rfl callee line args

theorem callSymbol_table {settings : Settings} {table other : Table} {symbol : String}
    (same : other.get? symbol = table.get? symbol) (line : Nat) (args : List Value) :
    (Interpreter.mk settings other).callSymbol line symbol args =
      (Interpreter.mk settings table).callSymbol line symbol args := by
  rw [callSymbol_lookup,callSymbol_lookup,same]
  cases table.get? symbol with
  | none => rfl
  | some p => exact congrArg Run.ofTrace (apply_table settings table other (.procedure p) line args)

end Interpreter

-- Libraries that are added change no call of a symbol that they do not bind, and once a value is
-- called no table changes anything, however deep its calls go.
theorem registration_conservative (settings : Settings) (libraries added : List Library)
    (line : Nat) (args : List Value) :
    let before := (Interpreter.ofLibraries settings libraries).1
    let after := (Interpreter.ofLibraries settings (libraries ++ added)).1
    (∀ symbol, (∀ row ∈ added.flatMap (·.entries), row.1 ≠ symbol) →
      (after.callSymbol line symbol args).result = (before.callSymbol line symbol args).result ∧
      (after.callSymbol line symbol args).log = (before.callSymbol line symbol args).log) ∧
    ∀ (table other : Table) (callee : Value),
      let run := (Interpreter.mk settings table).apply callee line args
      let again := (Interpreter.mk settings other).apply callee line args
      again.outcome = run.outcome ∧ again.log = run.log := by
  intro before after
  refine ⟨fun symbol unbound => ?_,fun table other callee => ?_⟩
  · have found : after.table.get? symbol = before.table.get? symbol := Table.get_added unbound
    have same : after.callSymbol line symbol args = before.callSymbol line symbol args :=
      Interpreter.callSymbol_table found line args
    exact ⟨congrArg Run.result same,congrArg Run.log same⟩
  · have same := Interpreter.apply_table settings table other callee line args
    exact ⟨congrArg Trace.outcome same,congrArg Trace.log same⟩

theorem registration_conservative_subtraction :
    let added : List Library := [⟨"lists",[("+",.primitive "append" .any .collect)]⟩]
    let before := (Interpreter.ofLibraries .standard Library.standard).1
    let after := (Interpreter.ofLibraries .standard (Library.standard ++ added)).1
    let args : List Value := [.number 5.0,.number 3.0]
    (∀ row ∈ added.flatMap (·.entries), row.1 ≠ "-") ∧
      (before.callSymbol 7 "-" args).result = .ok (.number (5.0 - 3.0)) ∧
      (after.callSymbol 7 "-" args).result = .ok (.number (5.0 - 3.0)) ∧
      (after.callSymbol 7 "-" args).log = (before.callSymbol 7 "-" args).log := by
  intro added before after args
  have unbound : ∀ row ∈ added.flatMap (·.entries), row.1 ≠ "-" := by simp [added]
  have subtracted : (before.callSymbol 7 "-" args).result = .ok (.number (5.0 - 3.0)) :=
    Interpreter.callSymbol_result .standard 7 args .sub
  obtain ⟨result,log⟩ :=
    (registration_conservative .standard Library.standard added 7 args).1 "-" unbound
  exact ⟨unbound,subtracted,result.trans subtracted,log⟩

end LispCalls
