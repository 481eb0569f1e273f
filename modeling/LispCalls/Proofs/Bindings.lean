import LispCalls.Proofs.DispatchErrors

namespace LispCalls

namespace Rows

@[simp] theorem lookup_row (other : String) (q : Procedure) (rest : Rows) (symbol : String) :
    List.lookup symbol ((other,q) :: rest) =
      if symbol = other then some q else rest.lookup symbol := by
  rw [List.lookup_cons]
  by_cases same : symbol = other
  · rw [beq_iff_eq.2 same,if_pos same]
  · rw [beq_eq_false_iff_ne.2 same,if_neg same]

@[simp] theorem lookup_place (symbol : String) (p : Procedure) (rows : Rows) (wanted : String) :
    (place symbol p rows).lookup wanted =
      if wanted = symbol then some p else rows.lookup wanted := by
  induction rows with
  | nil => exact lookup_row symbol p [] wanted
  | cons head rest ih =>
    obtain ⟨other,q⟩ := head
    simp only [place]
    split
    · rename_i taken
      subst taken
      by_cases found : wanted = symbol <;> simp [found]
    · rename_i differs
      split
      · simp
      · by_cases old : wanted = other
        · simp [old,Ne.symm differs]
        · simp [ih,old]

@[simp] theorem lookup_some {rows : Rows} {symbol : String} :
    (rows.lookup symbol).isSome = true ↔ symbol ∈ rows.map (·.1) := by
  rw [List.lookup_isSome_iff,List.mem_map]
  simp only [beq_iff_eq,eq_comm (a := symbol)]

@[simp] theorem lookup_none {rows : Rows} {symbol : String} :
    rows.lookup symbol = none ↔ symbol ∉ rows.map (·.1) := by
  rw [← lookup_some,Option.not_isSome_iff_eq_none]

def Last (rows : Rows) (symbol : String) (p : Procedure) : Prop :=
  ∃ earlier later, rows = earlier ++ (symbol,p) :: later ∧ ∀ row ∈ later, row.1 ≠ symbol

theorem lookup_reverse {rows : Rows} {symbol : String} {p : Procedure} :
    rows.reverse.lookup symbol = some p ↔ rows.Last symbol p := by
  rw [List.lookup_eq_some_iff]
  simp only [bne_iff_ne]
  constructor
  · rintro ⟨later,earlier,parts,others⟩
    refine ⟨earlier.reverse,later.reverse,?_,fun row member => ?_⟩
    · rw [List.reverse_eq_iff.1 parts]
      simp
    · exact (others row (List.mem_reverse.1 member)).symm
  · rintro ⟨earlier,later,rfl,others⟩
    refine ⟨later.reverse,earlier.reverse,by simp,fun row member => ?_⟩
    exact (others row (List.mem_reverse.1 member)).symm

end Rows

def Binding.row (b : Binding) : String × Procedure := (b.symbol,b.procedure)

@[simp] theorem Library.bindings_rows (libraries : List Library) :
    (libraries.flatMap (·.bindings)).map Binding.row = libraries.flatMap (·.entries) := by
  have own : ∀ library : Library, library.bindings.map Binding.row = library.entries := by
    intro library
    unfold Library.bindings
    rw [List.map_map]
    exact List.map_id library.entries
  simp only [List.map_flatMap,own]

namespace Table

@[simp] theorem get_insert (table : Table) (symbol : String) (p : Procedure) (wanted : String) :
    (table.insert symbol p).get? wanted =
      if wanted = symbol then some p else table.get? wanted :=
  Rows.lookup_place symbol p table.rows wanted

theorem get_addAll (table : Table) (bindings : List Binding) (symbol : String) :
    (table.addAll bindings).1.get? symbol =
      ((bindings.map Binding.row).reverse.lookup symbol).or (table.get? symbol) := by
  induction bindings generalizing table with
  | nil => rfl
  | cons b rest ih =>
    rw [addAll,ih]
    by_cases named : symbol = b.symbol <;> simp [Binding.row,List.lookup_append,named]

theorem get_ofLibraries (libraries : List Library) (symbol : String) :
    (ofLibraries libraries).1.get? symbol =
      (libraries.flatMap (·.entries)).reverse.lookup symbol := by
  have built : (ofLibraries libraries).1 =
      (empty.addAll (libraries.flatMap (·.bindings))).1 := rfl
  have unbound : empty.get? symbol = none := rfl
  simp [built,get_addAll,unbound]

@[simp] theorem get_none {table : Table} {symbol : String} :
    table.get? symbol = none ↔ symbol ∉ table.symbols := Rows.lookup_none

@[simp] theorem get_some {table : Table} {symbol : String} :
    (table.get? symbol).isSome = true ↔ symbol ∈ table.symbols := Rows.lookup_some

theorem symbols_ascending (table : Table) : table.symbols.Pairwise SymbolBefore :=
  List.pairwise_map.2 table.ascending

theorem symbols_nodup (table : Table) : table.symbols.Nodup := by
  refine table.symbols_ascending.imp fun before same => ?_
  subst same
  exact List.lt_irrefl _ before

structure Holds (table : Table) (entries : Rows) : Prop where
  last : ∀ symbol p, table.get? symbol = some p ↔ entries.Last symbol p
  unbound : ∀ symbol, table.get? symbol = none ↔ ∀ row ∈ entries, row.1 ≠ symbol
  contains : ∀ symbol, table.contains symbol = true ↔ (table.get? symbol).isSome = true
  listed : ∀ symbol, (table.get? symbol).isSome = true ↔ symbol ∈ table.symbols
  ascending : table.symbols.Pairwise SymbolBefore
  distinct : table.symbols.Nodup
  symbols : ∀ symbol, symbol ∈ table.symbols ↔ symbol ∈ entries.map (·.1)
  size : table.size = table.symbols.length
  isEmpty : table.isEmpty = true ↔ entries = []

theorem ofLibraries_holds (libraries : List Library) :
    (ofLibraries libraries).1.Holds (libraries.flatMap (·.entries)) := by
  have found := get_ofLibraries libraries
  have bound : ∀ symbol, symbol ∈ (ofLibraries libraries).1.symbols ↔
      symbol ∈ (libraries.flatMap (·.entries)).map (·.1) := by
    intro symbol
    rw [← get_some,found]
    simp
  generalize (ofLibraries libraries).1 = table at found bound
  generalize libraries.flatMap (·.entries) = entries at found bound
  refine ⟨?_,?_,fun _ => Iff.rfl,fun _ => get_some,table.symbols_ascending,table.symbols_nodup,bound,
    (List.length_map _).symm,?_⟩
  · intro symbol p
    rw [found]
    exact Rows.lookup_reverse
  · intro symbol
    simp only [get_none,bound,List.mem_map,not_exists,not_and,ne_eq]
  · have rows : table.isEmpty = true ↔ table.symbols = [] := by
      unfold isEmpty symbols
      rw [List.isEmpty_iff,List.map_eq_nil_iff]
    rw [rows,List.eq_nil_iff_forall_not_mem]
    simp only [bound]
    rw [← List.eq_nil_iff_forall_not_mem,List.map_eq_nil_iff]

end Table

namespace Interpreter

theorem resolve_unbound {i : Interpreter} {symbol : String} (line : Nat) :
    i.resolve line symbol = .error ((Fault.undefinedSymbol symbol).onLine line) ↔
      symbol ∉ i.table.symbols := by
  rw [← Table.get_none]
  unfold resolve
  cases i.table.get? symbol <;> simp

theorem callSymbol_unlisted {i : Interpreter} {symbol : String} (line : Nat) (args : List Value) :
    i.callSymbol line symbol args =
      .ofResult (.error ((Fault.undefinedSymbol symbol).onLine line)) ↔
      symbol ∉ i.table.symbols := by
  rw [← Table.get_none,callSymbol_lookup]
  cases i.table.get? symbol with
  | none => simp
  | some p => simp [Run.ofTrace,Run.ofResult]

-- A call of a bound symbol is the application of what it is bound to, whatever that comes to. A
-- call of an unbound one applies nothing and is the error that says so. The kind of an error
-- tells the two apart only where no procedure fails with an error of its own choice.
structure GoesBy (i : Interpreter) (entries : Rows) : Prop where
  resolved : ∀ line symbol p,
    i.resolve line symbol = .ok (.procedure p) ↔ entries.Last symbol p
  called : ∀ line symbol p args, entries.Last symbol p →
    i.callSymbol line symbol args = .ofTrace (i.apply (.procedure p) line args)
  unresolved : ∀ line symbol,
    i.resolve line symbol = .error ((Fault.undefinedSymbol symbol).onLine line) ↔
      symbol ∉ i.table.symbols
  uncalled : ∀ line symbol args,
    i.callSymbol line symbol args =
      .ofResult (.error ((Fault.undefinedSymbol symbol).onLine line)) ↔ symbol ∉ i.table.symbols
  undefined : ∀ line symbol args,
    (∀ p, entries.Last symbol p → ∀ name arity kind message,
      .primitive name arity (.fail kind message) ∉ Value.proceduresOf (.procedure p :: args)) →
    ((∃ e, (i.callSymbol line symbol args).result = .error e ∧ e.kind = .undefinedSymbol) ↔
      symbol ∉ i.table.symbols)

theorem ofLibraries_goesBy (settings : Settings) (libraries : List Library) :
    (ofLibraries settings libraries).1.GoesBy (libraries.flatMap (·.entries)) := by
  have holds : (ofLibraries settings libraries).1.table.Holds (libraries.flatMap (·.entries)) :=
    Table.ofLibraries_holds libraries
  generalize (ofLibraries settings libraries).1 = i at holds
  have bound : ∀ symbol p, i.table.get? symbol = some p ↔
      Rows.Last (libraries.flatMap (·.entries)) symbol p := holds.last
  generalize libraries.flatMap (·.entries) = entries at bound
  have called : ∀ line symbol p args, Rows.Last entries symbol p →
      i.callSymbol line symbol args = .ofTrace (i.apply (.procedure p) line args) := by
    intro line symbol p args last
    rw [callSymbol_lookup,(bound symbol p).2 last]
  refine ⟨?_,called,fun line _ => resolve_unbound line,
    fun line _ args => callSymbol_unlisted line args,?_⟩
  · intro line symbol p
    rw [← bound]
    unfold resolve
    cases i.table.get? symbol <;> simp
  · intro line symbol args unfailing
    cases found : i.table.get? symbol with
    | none =>
      have unlisted := Table.get_none.1 found
      have failed := (callSymbol_unlisted line args).2 unlisted
      exact iff_of_true ⟨_,congrArg Run.result failed,rfl⟩ unlisted
    | some p =>
      have last := (bound symbol p).1 found
      have listed : symbol ∈ i.table.symbols := Table.get_some.1 (by rw [found]; rfl)
      refine iff_of_false ?_ (fun unlisted => unlisted listed)
      rintro ⟨e,failed,kind⟩
      rw [called line symbol p args last] at failed
      exact (apply_unfailing (unfailing p last) failed).defined kind

end Interpreter

theorem libraries_bind (settings : Settings) (libraries : List Library) :
    let entries := libraries.flatMap (·.entries)
    (Table.ofLibraries libraries).1.Holds entries ∧
      (Interpreter.ofLibraries settings libraries).1.table =
        (Table.ofLibraries libraries).1 ∧
      (Interpreter.ofLibraries settings libraries).1.GoesBy entries :=
  ⟨Table.ofLibraries_holds libraries,rfl,Interpreter.ofLibraries_goesBy settings libraries⟩

end LispCalls
