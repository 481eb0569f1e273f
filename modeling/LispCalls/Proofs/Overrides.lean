import LispCalls.Proofs.Rebindings
import LispCalls.Proofs.Registration
import Mathlib.Data.List.Lattice

namespace LispCalls

theorem Binding.repeated_append {earlier later : List Binding}
    (apart : ∀ b ∈ later, b.symbol ∉ earlier.map (·.symbol)) :
    repeated (earlier ++ later) = repeated earlier ++ repeated later := by
  induction later using List.reverseRecOn with
  | nil => simp [repeated]
  | append_singleton later b ih =>
    have fresh : b.symbol ∉ earlier.map (·.symbol) := apart b (by simp)
    have others : ∀ c ∈ later, c.symbol ∉ earlier.map (·.symbol) :=
      fun c member => apart c (List.mem_append_left [b] member)
    have bound : b.symbol ∈ (earlier ++ later).map (·.symbol) ↔ b.symbol ∈ later.map (·.symbol) := by
      rw [List.map_append,List.mem_append]
      exact or_iff_right fresh
    rw [← List.append_assoc,repeated_concat,repeated_concat,ih others,List.append_assoc]
    simp only [bound]

theorem Library.binding_entry {libraries : List Library} {b : Binding}
    (member : b ∈ libraries.flatMap (·.bindings)) : b.row ∈ libraries.flatMap (·.entries) := by
  rw [← bindings_rows]
  exact List.mem_map_of_mem member

namespace Table

structure Agree (t u : Table) : Prop where
  get : ∀ symbol, t.get? symbol = u.get? symbol
  contains : ∀ symbol, t.contains symbol = u.contains symbol
  size : t.size = u.size
  isEmpty : t.isEmpty = u.isEmpty
  symbols : t.symbols = u.symbols

theorem symbols_known {t u : Table} (same : ∀ symbol, symbol ∈ t.symbols ↔ symbol ∈ u.symbols) :
    t.symbols = u.symbols := by
  have listed : t.symbols.Perm u.symbols :=
    (List.perm_ext_iff_of_nodup t.symbols_nodup u.symbols_nodup).2 same
  refine listed.eq_of_pairwise ?_ t.symbols_ascending u.symbols_ascending
  intro a b _ _ before after
  exact absurd (before.trans after) (List.lt_irrefl _)

theorem agree_known {t u : Table} (same : ∀ symbol, t.get? symbol = u.get? symbol) : t.Agree u := by
  have symbols : t.symbols = u.symbols := by
    refine symbols_known fun symbol => ?_
    rw [← get_some,← get_some,same]
  refine ⟨same,fun symbol => ?_,?_,?_,symbols⟩
  · simp only [contains,same]
  · simp only [size_card,symbols]
  · have empty : ∀ table : Table, table.isEmpty = table.symbols.isEmpty := by
      intro table
      simp [isEmpty,Table.symbols]
    rw [empty,empty,symbols]

@[simp] theorem mem_symbols_append (below above : List Library) (symbol : String) :
    symbol ∈ (ofLibraries (below ++ above)).1.symbols ↔
      symbol ∈ (ofLibraries below).1.symbols ∨ symbol ∈ (ofLibraries above).1.symbols := by
  rw [← get_some,← get_some,← get_some,get_append,Option.isSome_or,Bool.or_eq_true,or_comm]

structure Overrides (above below both : Table) : Prop where
  get : ∀ symbol, both.get? symbol =
    if above.contains symbol then above.get? symbol else below.get? symbol
  ascending : both.symbols.Pairwise SymbolBefore
  distinct : both.symbols.Nodup
  symbols : ∀ symbol, symbol ∈ both.symbols ↔ symbol ∈ below.symbols ∨ symbol ∈ above.symbols
  size : both.size + (below.symbols ∩ above.symbols).length = below.size + above.size

theorem ofLibraries_overrides (below above : List Library) :
    (ofLibraries above).1.Overrides (ofLibraries below).1 (ofLibraries (below ++ above)).1 where
  get symbol := by
    rw [get_append,contains]
    cases (ofLibraries above).1.get? symbol <;> rfl
  ascending := symbols_ascending _
  distinct := symbols_nodup _
  symbols := mem_symbols_append below above
  size := by
    have union : (ofLibraries (below ++ above)).1.symbols.toFinset =
        (ofLibraries below).1.symbols.toFinset ∪ (ofLibraries above).1.symbols.toFinset := by
      ext symbol
      simp
    have shared := List.toFinset_card_of_nodup
      ((ofLibraries below).1.symbols_nodup.inter (ofLibraries above).1.symbols)
    rw [size_card,size_card,size_card,union,← shared,List.toFinset_inter]
    exact Finset.card_union_add_card_inter _ _

def Apart (below above : List Library) : Prop :=
  ∀ row ∈ below.flatMap (·.entries), ∀ other ∈ above.flatMap (·.entries), row.1 ≠ other.1

theorem apart_symbols {below above : List Library} (apart : Apart below above) (symbol : String) :
    symbol ∉ (ofLibraries below).1.symbols ∨ symbol ∉ (ofLibraries above).1.symbols := by
  rw [(ofLibraries_holds below).symbols,(ofLibraries_holds above).symbols]
  by_contra shared
  rw [not_or,not_not,not_not,List.mem_map,List.mem_map] at shared
  obtain ⟨⟨row,first,rfl⟩,other,second,same⟩ := shared
  exact apart row first other second same.symm

theorem apart_agree {below above : List Library} (apart : Apart below above) :
    (ofLibraries (below ++ above)).1.Agree (ofLibraries (above ++ below)).1 := by
  refine agree_known fun symbol => ?_
  simp only [get_append]
  -- One of the two tables answers nothing, so it does not matter which is asked first.
  rcases apart_symbols apart symbol with unbound | unbound <;> simp [get_none.2 unbound]

theorem apart_warnings {below above : List Library} (apart : Apart below above) :
    Event.warnings (ofLibraries (below ++ above)).2 =
      Event.warnings (ofLibraries below).2 ++ Event.warnings (ofLibraries above).2 := by
  have fresh : ∀ b ∈ above.flatMap (·.bindings),
      b.symbol ∉ (below.flatMap (·.bindings)).map (·.symbol) := by
    intro b member bound
    obtain ⟨c,earlier,same⟩ := List.mem_map.1 bound
    exact apart _ (Library.binding_entry earlier) _ (Library.binding_entry member) same
  simp only [ofLibraries_warnings,List.flatMap_append,Binding.repeated_append fresh,List.map_append]

end Table

-- Later libraries override earlier ones, symbol by symbol. Where no symbol is bound by both, their
-- order is of no account, and each list of libraries is warned about as if it stood alone.
theorem libraries_override (below above : List Library) :
    (Table.ofLibraries above).1.Overrides (Table.ofLibraries below).1
        (Table.ofLibraries (below ++ above)).1 ∧
      (Table.Apart below above →
        (Table.ofLibraries (below ++ above)).1.Agree (Table.ofLibraries (above ++ below)).1 ∧
        Event.warnings (Table.ofLibraries (below ++ above)).2 =
          Event.warnings (Table.ofLibraries below).2 ++
            Event.warnings (Table.ofLibraries above).2) :=
  ⟨Table.ofLibraries_overrides below above,
    fun apart => ⟨Table.apart_agree apart,Table.apart_warnings apart⟩⟩

theorem libraries_override_apart :
    let below : List Library := [⟨"sums",[("+",.operator .add),("+",.operator .sub)]⟩]
    let above : List Library :=
      [⟨"lists",[("list",.primitive "first" .any .first),("list",.primitive "list" .any .collect)]⟩]
    Table.Apart below above ∧
      (Table.ofLibraries (below ++ above)).1.Agree (Table.ofLibraries (above ++ below)).1 ∧
      Event.warnings (Table.ofLibraries (below ++ above)).2 =
        [.rebound "+" "sums",.rebound "list" "lists"] := by
  intro below above
  have apart : Table.Apart below above := by
    simp [Table.Apart,below,above]
  obtain ⟨agree,warned⟩ := (libraries_override below above).2 apart
  exact ⟨apart,agree,warned⟩

end LispCalls
