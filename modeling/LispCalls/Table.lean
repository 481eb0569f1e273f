import LispCalls.Event
import LispCalls.Operator
import LispCalls.Value

namespace LispCalls

-- A named group of procedures, each bound to a symbol. The symbol need not be the name of
-- the procedure, and may occur more than once.
structure Library where
  name : String
  entries : List (String × Procedure)

namespace Library

def arithmetic : Library :=
  ⟨"arithmetic",Operator.all.map fun op => (op.symbol,.operator op)⟩

def standard : List Library := [arithmetic]

end Library

def symbolBytes (symbol : String) : List UInt8 := symbol.toUTF8.data.toList

def SymbolBefore (a b : String) : Prop := symbolBytes a < symbolBytes b

instance (a b : String) : Decidable (SymbolBefore a b) :=
  inferInstanceAs (Decidable (symbolBytes a < symbolBytes b))

theorem symbolBytes_inj {a b : String} (same : symbolBytes a = symbolBytes b) : a = b :=
  String.toByteArray_inj.1 (ByteArray.ext (Array.toList_inj.1 same))

theorem SymbolBefore.trans {a b c : String} (ab : SymbolBefore a b) (bc : SymbolBefore b c) :
    SymbolBefore a c := List.lt_trans ab bc

theorem before_of_not_before {a b : String} (other : a ≠ b) (notBefore : ¬SymbolBefore a b) :
    SymbolBefore b a := by
  rcases List.le_iff_lt_or_eq.1 (List.not_lt.1 notBefore) with before | same
  · exact before
  · exact absurd (symbolBytes_inj same).symm other

abbrev Rows := List (String × Procedure)

namespace Rows

def Ascending (rows : Rows) : Prop := rows.Pairwise fun a b => SymbolBefore a.1 b.1

def place (symbol : String) (p : Procedure) : Rows → Rows
  | [] => [(symbol,p)]
  | (other,q) :: rest =>
    if symbol = other then (symbol,p) :: rest
    else if SymbolBefore symbol other then (symbol,p) :: (other,q) :: rest
    else (other,q) :: place symbol p rest

theorem mem_place {symbol : String} {p : Procedure} {rows : Rows}
    {row : String × Procedure} (member : row ∈ place symbol p rows) : row = (symbol,p) ∨ row ∈ rows := by
  induction rows with
  | nil => simpa [place] using member
  | cons head rest ih =>
    obtain ⟨other,q⟩ := head
    simp only [place] at member
    split at member
    · rcases List.mem_cons.1 member with rfl | old
      · exact .inl rfl
      · exact .inr (List.mem_cons_of_mem _ old)
    · split at member
      · exact List.mem_cons.1 member
      · rcases List.mem_cons.1 member with rfl | later
        · exact .inr List.mem_cons_self
        · exact (ih later).imp id (List.mem_cons_of_mem _)

theorem place_ascending (symbol : String) (p : Procedure) {rows : Rows}
    (ascending : Ascending rows) : Ascending (place symbol p rows) := by
  induction rows with
  | nil => exact List.pairwise_singleton _ _
  | cons head rest ih =>
    obtain ⟨other,q⟩ := head
    obtain ⟨first,others⟩ := List.pairwise_cons.1 ascending
    simp only [place]
    split
    · rename_i same
      exact List.pairwise_cons.2 ⟨fun row member => same ▸ first row member,others⟩
    · rename_i differs
      split
      · rename_i before
        refine List.pairwise_cons.2 ⟨?_,ascending⟩
        intro row member
        rcases List.mem_cons.1 member with rfl | later
        · exact before
        · exact before.trans (first row later)
      · rename_i notBefore
        refine List.pairwise_cons.2 ⟨?_,ih others⟩
        intro row member
        rcases mem_place member with rfl | old
        · exact before_of_not_before differs notBefore
        · exact first row old

end Rows

structure Table where
  rows : Rows
  ascending : Rows.Ascending rows

structure Binding where
  library : String
  symbol : String
  procedure : Procedure

def Library.bindings (library : Library) : List Binding :=
  library.entries.map fun entry => ⟨library.name,entry.1,entry.2⟩

namespace Table

def empty : Table := ⟨[],.nil⟩

def get? (table : Table) (symbol : String) : Option Procedure := table.rows.lookup symbol

def contains (table : Table) (symbol : String) : Bool := (table.get? symbol).isSome

def size (table : Table) : Nat := table.rows.length

def isEmpty (table : Table) : Bool := table.rows.isEmpty

def symbols (table : Table) : List String := table.rows.map (·.1)

def insert (table : Table) (symbol : String) (p : Procedure) : Table :=
  ⟨Rows.place symbol p table.rows,Rows.place_ascending symbol p table.ascending⟩

def addAll (table : Table) : List Binding → Table × List Event
  | [] => (table,[])
  | b :: rest =>
    let noted := if table.contains b.symbol then [.rebound b.symbol b.library] else []
    let (full,later) := (table.insert b.symbol b.procedure).addAll rest
    (full,noted ++ later)

def ofLibraries (libraries : List Library) : Table × List Event :=
  let (table,rebound) := empty.addAll (libraries.flatMap (·.bindings))
  (table,rebound ++ [.tableBuilt libraries.length table.size])

def standard : Table × List Event := ofLibraries Library.standard

end Table
end LispCalls
