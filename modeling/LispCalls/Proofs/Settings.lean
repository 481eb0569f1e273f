import LispCalls.Settings

namespace LispCalls

def Event.written (e : Event) : Level × String × List (String × Detail) :=
  (e.level,e.message,e.details)

namespace Settings

def recorded (lookup : String → Option String) (name : String) :
    StateM (List String) (Option String) := do
  modify (· ++ [name])
  return lookup name

def unreadable {α : Type} (read? : String → Option α) (answer : Option String) : List String :=
  (answer.filter fun raw => (read? raw).isNone).toList

def warned (message setting raw : String) : Level × String × List (String × Detail) :=
  (.warn,message,[("var",.text setting),("value",.text raw)])

theorem choose_value {α : Type} (default : α) (read? : String → Option α)
    (warning : String → Event) (answer : Option String) :
    (choose default read? warning answer).1 = (answer.bind read?).getD default := by
  cases answer with
  | none => rfl
  | some raw =>
    unfold choose
    cases result : read? raw <;> simp [result]

theorem choose_events {α : Type} (default : α) (read? : String → Option α)
    (warning : String → Event) (answer : Option String) :
    (choose default read? warning answer).2 = (unreadable read? answer).map warning := by
  cases answer with
  | none => rfl
  | some raw =>
    unfold choose unreadable
    cases result : read? raw <;> simp [result,Option.filter]

structure GoBy (lookup : String → Option String) (outcome : Settings × List Event) : Prop where
  style : outcome.1.style = ((lookup "TINYLISP_DIAGNOSTICS").bind ReportStyle.parse?).getD .plain
  checkArity : outcome.1.checkArity = ((lookup "TINYLISP_CHECK_ARITY").bind flag?).getD true
  events : outcome.2.map Event.written =
    (unreadable ReportStyle.parse? (lookup "TINYLISP_DIAGNOSTICS")).map
      (warned "unknown diagnostic style" "TINYLISP_DIAGNOSTICS") ++
    (unreadable flag? (lookup "TINYLISP_CHECK_ARITY")).map
      (warned "expected a boolean" "TINYLISP_CHECK_ARITY")

theorem ofAnswers_goBy (lookup : String → Option String) :
    GoBy lookup (ofAnswers (lookup styleVariable) (lookup arityVariable)) where
  style := choose_value standard.style ReportStyle.parse? (.unknownStyle styleVariable) _
  checkArity := choose_value standard.checkArity flag? (.unknownFlag arityVariable) _
  events := by
    simp only [ofAnswers,choose_events,List.map_append,List.map_map]
    rfl

theorem read_recorded (lookup : String → Option String) :
    (read (recorded lookup)).run [] =
      (ofAnswers (lookup styleVariable) (lookup arityVariable),[styleVariable,arityVariable]) := rfl

end Settings

theorem Text.fromUTF8_some {bytes : ByteArray} {s : String} :
    String.fromUTF8? bytes = some s ↔ bytes = s.toUTF8 := by
  unfold String.fromUTF8?
  constructor
  · intro decoded
    split at decoded
    · cases decoded
      rfl
    · cases decoded
  · rintro rfl
    exact dif_pos s.isValidUTF8

namespace Settings

theorem environmentLookup_some {entries : List (String × ByteArray)} {name text : String} :
    environmentLookup entries name = some text ↔ entries.lookup name = some text.toUTF8 := by
  unfold environmentLookup
  rw [Option.bind_eq_some_iff]
  simp only [Text.fromUTF8_some]
  constructor
  · rintro ⟨bytes,found,rfl⟩
    exact found
  · intro found
    exact ⟨text.toUTF8,found,rfl⟩

theorem ofEnvironment_recorded (entries : List (String × ByteArray)) :
    ofEnvironment entries = ((read (recorded (environmentLookup entries))).run []).1 := rfl

end Settings

-- A lookup is asked for two names, once each and in this order, and settings and log go by what it
-- answers. An environment is such a lookup, with the values that are text for its answers.
theorem settings_go_by_answers (lookup : String → Option String)
    (entries : List (String × ByteArray)) :
    let (outcome,asked) := (Settings.read (Settings.recorded lookup)).run []
    asked = ["TINYLISP_DIAGNOSTICS","TINYLISP_CHECK_ARITY"] ∧ Settings.GoBy lookup outcome ∧
    ∃ texts : String → Option String,
      (∀ name text, texts name = some text ↔ entries.lookup name = some text.toUTF8) ∧
      Settings.ofEnvironment entries = ((Settings.read (Settings.recorded texts)).run []).1 := by
  rw [Settings.read_recorded]
  refine ⟨rfl,Settings.ofAnswers_goBy lookup,Settings.environmentLookup entries,?_,?_⟩
  · intro name text
    exact Settings.environmentLookup_some
  · exact Settings.ofEnvironment_recorded entries

end LispCalls
