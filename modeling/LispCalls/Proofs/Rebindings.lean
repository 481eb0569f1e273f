import LispCalls.Proofs.Bindings
import LispCalls.Proofs.Settings
import Mathlib.Data.Finset.Card
import Mathlib.Data.List.Induction

namespace LispCalls

namespace Binding

def repeated (bindings : List Binding) : List Binding :=
  (bindings.zipIdx.filter fun entry =>
    entry.1.symbol ∈ (bindings.take entry.2).map (·.symbol)).map (·.1)

@[simp] theorem repeated_concat (bindings : List Binding) (b : Binding) :
    repeated (bindings ++ [b]) =
      repeated bindings ++ if b.symbol ∈ bindings.map (·.symbol) then [b] else [] := by
  have earlier : (bindings.zipIdx.filter fun entry =>
        entry.1.symbol ∈ ((bindings ++ [b]).take entry.2).map (·.symbol)) =
      bindings.zipIdx.filter fun entry =>
        entry.1.symbol ∈ (bindings.take entry.2).map (·.symbol) := by
    apply List.filter_congr
    intro entry member
    have place : entry.2 < bindings.length := List.snd_lt_of_mem_zipIdx member
    rw [List.take_append_of_le_length (Nat.le_of_lt place)]
  unfold repeated
  rw [List.zipIdx_append,List.filter_append,List.map_append,earlier]
  congr 1
  by_cases bound : b.symbol ∈ bindings.map (·.symbol) <;> simp [bound]

theorem repeated_length (bindings : List Binding) :
    (repeated bindings).length + (bindings.map (·.symbol)).toFinset.card = bindings.length := by
  induction bindings using List.reverseRecOn with
  | nil => rfl
  | append_singleton bindings b ih =>
    have symbols : ((bindings ++ [b]).map (·.symbol)).toFinset =
        insert b.symbol (bindings.map (·.symbol)).toFinset := by
      ext symbol
      simp
    rw [repeated_concat,symbols]
    by_cases bound : b.symbol ∈ bindings.map (·.symbol)
    · have kept := Finset.insert_eq_self.2 (List.mem_toFinset.2 bound)
      simp only [bound,kept,if_true,List.length_append,List.length_singleton]
      omega
    · have grown := Finset.card_insert_of_notMem (mt List.mem_toFinset.1 bound)
      simp only [bound,grown,if_false,List.append_nil,List.length_append,List.length_singleton]
      omega

def last? (symbol : String) (bindings : List Binding) : Option Binding :=
  (bindings.filter (·.symbol = symbol)).getLast?

@[simp] theorem last_concat (symbol : String) (bindings : List Binding) (b : Binding) :
    last? symbol (bindings ++ [b]) = if b.symbol = symbol then some b else last? symbol bindings := by
  unfold last?
  by_cases named : b.symbol = symbol <;> simp [named]

@[simp] theorem last_none {symbol : String} {bindings : List Binding} :
    last? symbol bindings = none ↔ symbol ∉ bindings.map (·.symbol) := by
  simp [last?]

theorem last_repeated {symbol : String} {bindings : List Binding} {b : Binding}
    (last : last? symbol (repeated bindings) = some b) : last? symbol bindings = some b := by
  induction bindings using List.reverseRecOn with
  | nil => cases last
  | append_singleton bindings c ih =>
    rw [repeated_concat] at last
    rw [last_concat]
    by_cases named : c.symbol = symbol
    · by_cases bound : c.symbol ∈ bindings.map (·.symbol)
      · rw [if_pos bound] at last
        simpa [named] using last
      · rw [if_neg bound,List.append_nil] at last
        have unbound : last? symbol bindings = none := last_none.2 (named ▸ bound)
        cases unbound.symm.trans (ih last)
    · have others : last? symbol (repeated bindings) = some b := by
        split at last <;> simpa [named] using last
      rw [if_neg named,ih others]

theorem last_lookup (symbol : String) (bindings : List Binding) :
    (bindings.map row).reverse.lookup symbol = (last? symbol bindings).map (·.procedure) := by
  induction bindings using List.reverseRecOn with
  | nil => rfl
  | append_singleton bindings b ih =>
    by_cases named : b.symbol = symbol
    · simp [row,named]
    · have other : (symbol == b.symbol) = false := beq_false_of_ne (Ne.symm named)
      simp [row,named,List.lookup_cons,other,ih]

def note (b : Binding) : Event := .rebound b.symbol b.library

end Binding

namespace Event

def rebinds (symbol : String) : Event → Bool
  | .rebound other _ => other = symbol
  | _ => false

def warnings (events : List Event) : List Event := events.filter (·.level = .warn)

end Event

namespace Table

theorem addAll_append (table : Table) (earlier later : List Binding) :
    table.addAll (earlier ++ later) =
      (((table.addAll earlier).1.addAll later).1,
        (table.addAll earlier).2 ++ ((table.addAll earlier).1.addAll later).2) := by
  induction earlier generalizing table with
  | nil => rfl
  | cons b rest ih => simp [addAll,ih]

theorem contains_addAll (bindings : List Binding) (symbol : String) :
    (empty.addAll bindings).1.contains symbol = true ↔ symbol ∈ bindings.map (·.symbol) := by
  have absent : empty.get? symbol = none := rfl
  simp [contains,get_addAll,absent,Binding.row,@eq_comm _ symbol]

theorem addAll_events (bindings : List Binding) :
    (empty.addAll bindings).2 = (Binding.repeated bindings).map Binding.note := by
  induction bindings using List.reverseRecOn with
  | nil => rfl
  | append_singleton bindings b ih =>
    have bound := contains_addAll bindings b.symbol
    rw [addAll_append,ih]
    by_cases contained : (empty.addAll bindings).1.contains b.symbol = true
    · simp [addAll,contained,bound.1 contained,Binding.note]
    · simp [addAll,contained,mt bound.2 contained]

theorem ofLibraries_events (libraries : List Library) :
    (ofLibraries libraries).2 =
      (Binding.repeated (libraries.flatMap (·.bindings))).map Binding.note ++
        [.tableBuilt libraries.length (ofLibraries libraries).1.size] := by
  rw [← addAll_events]
  rfl

theorem ofLibraries_warnings (libraries : List Library) :
    Event.warnings (ofLibraries libraries).2 =
      (Binding.repeated (libraries.flatMap (·.bindings))).map Binding.note := by
  rw [ofLibraries_events]
  simp [Event.warnings,List.filter_map,Function.comp_def,Binding.note,Event.level]

theorem size_card (table : Table) : table.size = table.symbols.toFinset.card := by
  rw [List.toFinset_card_of_nodup table.symbols_nodup]
  exact (List.length_map _).symm

theorem ofLibraries_size (libraries : List Library) :
    (ofLibraries libraries).1.size =
      ((libraries.flatMap (·.bindings)).map (·.symbol)).toFinset.card := by
  rw [size_card]
  congr 1
  ext symbol
  rw [List.mem_toFinset,List.mem_toFinset,← get_some]
  exact contains_addAll _ symbol

structure Audited (libraries : List Library) (built : Table × List Event) : Prop where
  log : built.2.map Event.written =
    (Binding.repeated (libraries.flatMap (·.bindings))).map (fun b =>
      (.warn,"builtin rebound",[("symbol",.text b.symbol),("module",.text b.library)])) ++
    [(.debug,"builtin table built",
      [("modules",.count libraries.length),("builtins",.count built.1.size)])]
  count : (Event.warnings built.2).length + built.1.size =
    (libraries.flatMap (·.entries)).length
  last : ∀ symbol library,
    (built.2.filter (·.rebinds symbol)).getLast? = some (.rebound symbol library) →
    ∃ b, Binding.last? symbol (libraries.flatMap (·.bindings)) = some b ∧ b.library = library ∧
      built.1.get? symbol = some b.procedure

@[simp] theorem note_rebinds (symbol : String) (b : Binding) :
    b.note.rebinds symbol = decide (b.symbol = symbol) := rfl

theorem last_noted {symbol : String} {libraries : List Library} {event : Event}
    (last : ((ofLibraries libraries).2.filter (·.rebinds symbol)).getLast? = some event) :
    ∃ b, Binding.last? symbol (libraries.flatMap (·.bindings)) = some b ∧ event = b.note := by
  have built : ∀ sources procedures, (Event.tableBuilt sources procedures).rebinds symbol = false :=
    fun _ _ => rfl
  have noted : ((Binding.last? symbol (Binding.repeated (libraries.flatMap (·.bindings)))).map
      Binding.note) = some event := by
    rw [← last,ofLibraries_events,Binding.last?,← List.getLast?_map]
    simp [List.filter_map,Function.comp_def,note_rebinds,built]
  obtain ⟨b,named,rfl⟩ := Option.map_eq_some_iff.1 noted
  exact ⟨b,Binding.last_repeated named,rfl⟩

theorem get_last (libraries : List Library) (symbol : String) :
    (ofLibraries libraries).1.get? symbol =
      (Binding.last? symbol (libraries.flatMap (·.bindings))).map (·.procedure) := by
  rw [get_ofLibraries,← Library.bindings_rows,Binding.last_lookup]

end Table

-- Every entry that takes the place of another is noted, in order and under its own library; what
-- is noted and what stays add up to the entries, and the last note about a symbol names the
-- library of the procedure that stays.
theorem rebindings_audited (libraries : List Library) :
    Table.Audited libraries (Table.ofLibraries libraries) where
  log := by
    simp [Table.ofLibraries_events,Event.written,Binding.note,Event.level,Event.message,Event.details]
  count := by
    have entries : (libraries.flatMap (·.bindings)).length = (libraries.flatMap (·.entries)).length := by
      rw [← Library.bindings_rows,List.length_map]
    have total := Binding.repeated_length (libraries.flatMap (·.bindings))
    rw [← Table.ofLibraries_size,entries] at total
    rw [← total,Table.ofLibraries_warnings,List.length_map]
  last := by
    intro symbol library last
    obtain ⟨b,stays,noted⟩ := Table.last_noted last
    cases noted
    refine ⟨b,stays,rfl,?_⟩
    rw [Table.get_last,stays,Option.map_some]

end LispCalls
