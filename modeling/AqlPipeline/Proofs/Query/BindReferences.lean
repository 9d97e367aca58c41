import AqlPipeline.Expr.Build
import AqlPipeline.Proofs.BindTable.Fresh
import AqlPipeline.Proofs.Query.Compile

/-!
# References to bind variables

Every step of a run leaves the variables that are there as they are and adds at most one, under a
name that is free.  A name that has been written as a reference is bound to its value at that
moment, so it still is at the end, whatever is cut out of the text in between.
-/

namespace AqlPipeline

/-! ## Variables are only added -/

/-- What becomes of the variables of a table. -/
structure BindTable.Grows (before after : BindTable) : Prop where
  /-- Suffixes come from the same sequence. -/
  suffix_eq : after.suffix = before.suffix
  /-- Variables are only added. -/
  entries : before.entries <+: after.entries
  /-- Names stay distinct if suffixes do not repeat. -/
  nodup : Function.Injective before.suffix → before.names.Nodup → after.names.Nodup

namespace BindTable

theorem Grows.refl (table : BindTable) : Grows table table :=
  ⟨rfl, List.prefix_refl _, fun _ nodup => nodup⟩

theorem Grows.trans {first second third : BindTable} (earlier : Grows first second)
    (later : Grows second third) : Grows first third where
  suffix_eq := later.suffix_eq.trans earlier.suffix_eq
  entries := earlier.entries.trans later.entries
  nodup distinct nodup :=
    later.nodup (earlier.suffix_eq ▸ distinct) (earlier.nodup distinct nodup)

/-- Another variable under a free name leaves the names distinct. -/
theorem nodup_of_entries_eq {before after : BindTable} {name : String} {value : Json}
    (free : name ∉ before.names) (entries_eq : after.entries = before.entries ++ [(name, value)])
    (nodup : before.names.Nodup) : after.names.Nodup := by
  have names_eq : after.names = before.names ++ [name] := by simp [names, entries_eq]
  rw [names_eq]
  refine nodup.append (List.nodup_singleton name) ?_
  rw [List.disjoint_singleton]
  exact free

theorem grows_register (table : BindTable) (preferred : String) (value : Json) :
    Grows table (table.register preferred value).2 where
  suffix_eq := register_suffix table preferred value
  entries := Writer.register_prefix table preferred value
  nodup distinct nodup := by
    obtain ⟨free, entries_eq⟩ := register_eq distinct preferred value
    exact nodup_of_entries_eq free entries_eq nodup

theorem grows_registerNamed (table : BindTable) (name : String) (value : Json) :
    Grows table (table.registerNamed name value).2 where
  suffix_eq := registerNamed_suffix table name value
  entries := Writer.registerNamed_prefix table name value
  nodup distinct nodup := by
    rcases registerNamed_cases distinct name value with ⟨free, entries_eq⟩ | ⟨same, -⟩
    · exact nodup_of_entries_eq free entries_eq nodup
    · rwa [same]

end BindTable

namespace Writer

theorem grows_apply (writer : Writer) (step : Step) :
    writer.binds.Grows (writer.apply step).binds := by
  cases step with
  | bindLiteral value => exact writer.binds.grows_register literalName value
  | bindNamed name value => exact writer.binds.grows_registerNamed name value
  | _ => exact .refl _

theorem leave_binds (mark : Mark) (writer : Writer) :
    (leave mark writer).writer.binds = writer.binds := by
  obtain ⟨trail, writer_eq⟩ := leave_writer mark writer
  rw [writer_eq]

theorem recover?_binds {mark : Mark} {writer replaced : Writer} {thing : String}
    (recovered : recover? mark writer thing = some replaced) : replaced.binds = writer.binds := by
  obtain ⟨kept, -, rfl⟩ := recover?_eq_some recovered
  rfl

/-- Whether a visit is replaced or not, its variables stay. -/
theorem close_binds (mark : Mark) (outcome : Outcome) :
    (close mark outcome).writer.binds = outcome.writer.binds := by
  cases outcome with
  | finished writer => exact leave_binds mark writer
  | stopped writer error =>
      cases error with
      | notSupported thing =>
          rw [close]
          cases recovered : recover? mark writer thing with
          | none => rfl
          | some replaced => exact (leave_binds mark replaced).trans (recover?_binds recovered)
      | _ => rfl
  | crashed writer => rfl

/-- However a run ends, variables are only added. -/
theorem grows_run (script : Script) (before : Writer) :
    before.binds.Grows (run script before).writer.binds := by
  induction script generalizing before with
  | done => exact .refl _
  | fail error => exact .refl _
  | step first rest ih => exact (grows_apply before first).trans (ih (before.apply first))
  | visit segment body rest bodyIh restIh =>
      have inner : before.binds.Grows
          (close (before.mark segment) (run body (before.enter segment))).writer.binds := by
        rw [close_binds]
        exact bodyIh (before.enter segment)
      rw [run]
      generalize close _ (run body (before.enter segment)) = outcome at inner
      cases outcome with
      | finished middle => exact inner.trans (restIh middle)
      | stopped middle error => exact inner
      | crashed middle => exact inner

end Writer

/-! ## Along a walk -/

namespace Walk

theorem Step.grows {walk next : Walk} (step : Step walk next) :
    walk.writer.binds.Grows next.writer.binds := by
  cases step with
  | take first rest frames writer => exact writer.grows_apply first
  | begin => exact .refl _
  | replace frame frames recovered => exact Writer.recover?_binds recovered ▸ .refl _
  | @finish frame frames writer after left =>
      have kept := Writer.leave_binds frame.mark writer
      rw [left] at kept
      exact (show after.binds = writer.binds from kept) ▸ .refl _

theorem Reaches.grows {walk next : Walk} (reached : Reaches walk next) :
    walk.writer.binds.Grows next.writer.binds := by
  induction reached with
  | refl => exact .refl _
  | tail _ step ih => exact ih.trans step.grows

/-- There is one way to go on. -/
theorem step_unique : Relator.RightUnique Step := by
  intro walk next other step step'
  cases step with
  | finish frame frames left =>
      cases step' with
      | finish _ _ left' =>
          rw [left] at left'
          cases left'
          rfl
  | replace frame frames recovered =>
      cases step' with
      | replace _ _ recovered' =>
          rw [recovered] at recovered'
          cases recovered'
          rfl
  | _ =>
      cases step'
      rfl

/-- Every point of a walk that comes to its end lies before that end. -/
theorem Reaches.to_end {start point : Walk} {last : Writer} (reached : Reaches start point)
    (ended : Reaches start ⟨.done, [], last⟩) : Reaches point ⟨.done, [], last⟩ := by
  rcases Relation.ReflTransGen.total_of_right_unique step_unique reached ended with before | behind
  · exact before
  · -- nothing can be done at the end
    rcases behind.cases_head with same | ⟨next, step, -⟩
    · rw [same]
      exact .refl
    · cases step

end Walk

/-! ## References -/

/-- The value that a step binds. -/
def Step.value? : Step → Option Json
  | .bindLiteral value => some value
  | .bindNamed _ value => some value
  | _ => none

/-- What is new behind `before` is a reference to a name, and the name is bound to a value: the
given one, or one that is equal to it. -/
structure Writer.Refers (before after : Writer) (name : String) (value : Json) : Prop where
  /-- The reference. -/
  text : after.output.text = before.output.text ++ ("@" ++ name)
  /-- The value of its name. -/
  bound : ∃ stored, after.binds.get? name = some stored ∧ (stored = value ∨ stored.same value)

namespace Writer

theorem refers_of_entries_eq {before after : Writer} {name : String} {value : Json}
    (text : after.output.text = before.output.text ++ ("@" ++ name))
    (free : name ∉ before.binds.names)
    (entries_eq : after.binds.entries = before.binds.entries ++ [(name, value)]) :
    Refers before after name value := by
  refine ⟨text, value, ?_, .inl rfl⟩
  rw [BindTable.get?, entries_eq]
  exact Json.lookup?_append_new free value

/-- A value without a name is bound to a name that was free. -/
theorem bindLiteral_refers {before : Writer} (distinct : Function.Injective before.binds.suffix)
    (value : Json) :
    ∃ name ∉ before.binds.names, Refers before (before.bindLiteral value) name value := by
  obtain ⟨free, entries_eq⟩ := BindTable.register_eq distinct literalName value
  exact ⟨_, free, refers_of_entries_eq rfl free entries_eq⟩

theorem bindNamed_refers {before : Writer} (distinct : Function.Injective before.binds.suffix)
    (wanted : String) (value : Json) :
    ∃ name, Refers before (before.bindNamed wanted value) name value := by
  refine ⟨(before.binds.registerNamed wanted value).1, ?_⟩
  rcases BindTable.registerNamed_cases distinct wanted value with
    ⟨free, entries_eq⟩ | ⟨same, stored, looked, equal⟩
  · exact refers_of_entries_eq rfl free entries_eq
  · refine ⟨rfl, stored, ?_, .inr equal⟩
    change (before.binds.registerNamed wanted value).2.get? _ = some stored
    rw [same]
    exact looked

theorem apply_refers {before : Writer} (distinct : Function.Injective before.binds.suffix)
    {step : Step} {value : Json} (binds : step.value? = some value) :
    ∃ name, Refers before (before.apply step) name value := by
  cases step with
  | bindLiteral _ =>
      cases binds
      obtain ⟨name, -, refers⟩ := bindLiteral_refers distinct value
      exact ⟨name, refers⟩
  | bindNamed wanted _ =>
      cases binds
      exact bindNamed_refers distinct wanted value
  | _ => cases binds

theorem patchSkip_binds (writer : Writer) (count : Int) :
    (writer.patchSkip count).binds = writer.binds := by
  simp only [patchSkip, insertBehind?]
  cases writer.output.insertBehind? limitToken (toString count ++ ", ") <;> rfl

theorem finish_binds (writer : Writer) : writer.finish.binds = writer.binds.entries := by
  have patched : ∀ (counts : List Int) (writer : Writer),
      (counts.foldl patchSkip writer).binds = writer.binds := by
    intro counts
    induction counts with
    | nil => exact fun _ => rfl
    | cons count counts ih => exact fun writer => (ih _).trans (writer.patchSkip_binds count)
  exact congrArg BindTable.entries (patched writer.skips writer)

end Writer

/-- If suffixes do not repeat, then a visit leaves the variables as they are and the names distinct,
however it ends; a value without a name gets a name that was free, and every reference is to a name
that is bound to its value, right behind the step that writes it and in the query; and the search
for a fresh name ends with a free one. -/
theorem bind_references_stay {suffix : Nat → String} (distinct : Function.Injective suffix) :
    (∀ before : Writer, before.binds.suffix = suffix → ∀ segment body,
      before.binds.entries <+: (Writer.run (.enter segment body) before).writer.binds.entries ∧
      (before.binds.names.Nodup →
        (Writer.run (.enter segment body) before).writer.binds.names.Nodup)) ∧
    (∀ before : Writer, before.binds.suffix = suffix → ∀ value,
      ∃ name ∉ before.binds.names, Writer.Refers before (before.bindLiteral value) name value) ∧
    (∀ before : Writer, before.binds.suffix = suffix → ∀ wanted value,
      ∃ name, Writer.Refers before (before.bindNamed wanted value) name value) ∧
    (∀ dialect settings expr query,
      Query.compileWith suffix dialect settings expr = .ok query →
      (query.binds.map Prod.fst).Nodup ∧
      ∀ first rest frames before value,
        Walk.Reaches (.ofExpr suffix dialect settings expr)
          ⟨.step first rest, frames, before⟩ →
        first.value? = some value →
        ∃ name, Writer.Refers before (before.apply first) name value ∧
          Json.lookup? name query.binds = (before.apply first).binds.get? name) ∧
    (∀ table : BindTable, table.suffix = suffix → ∀ preferred,
      table.Finds preferred table.drawn (table.freshName preferred) ∧
      (table.freshName preferred).1 ∉ table.names) := by
  refine ⟨?_, ?_, ?_, ?_, ?_⟩
  · rintro before rfl segment body
    have grows := Writer.grows_run (.enter segment body) before
    exact ⟨grows.entries, grows.nodup distinct⟩
  · rintro before rfl value
    exact Writer.bindLiteral_refers distinct value
  · rintro before rfl wanted value
    exact Writer.bindNamed_refers distinct wanted value
  · intro dialect settings expr query compiled
    obtain ⟨last, ran, rfl⟩ := Query.run_of_compileWith compiled
    rw [Writer.finish_binds]
    constructor
    · have grows := Writer.grows_run (.enter "" (expr.script dialect {}))
        (.startWith suffix settings)
      rw [ran] at grows
      exact grows.nodup distinct List.nodup_nil
    · intro first rest frames before value reached binds
      have suffix_eq : before.binds.suffix = suffix := reached.grows.suffix_eq
      obtain ⟨name, refers⟩ := Writer.apply_refers (suffix_eq ▸ distinct) binds
      refine ⟨name, refers, ?_⟩
      -- the walk goes on behind the reference, to the end of the run
      have ended := (Walk.reaches_of_run (.enter "" (expr.script dialect {})) []
        (.startWith suffix settings)).1 last ran
      have taken : Walk.Reaches (.ofExpr suffix dialect settings expr)
          ⟨rest, frames, before.apply first⟩ := reached.tail (.take first rest frames before)
      have behind := taken.to_end ended
      obtain ⟨stored, looked, -⟩ := refers.bound
      rw [looked]
      exact Json.lookup?_of_prefix looked behind.grows.entries
  · rintro table rfl preferred
    have found := BindTable.freshName_finds distinct preferred
    exact ⟨found, found.not_mem⟩

/-- A test of two numbers, and in between of a captured variable that is called like the second
number would be. -/
def Expr.imitatingFilter : Expr :=
  let user : Parameter := ⟨"user", .named "User"⟩
  let number (name : String) : Expr := .memberOf (.parameter user) name (.number "Int32")
  .stage "Where" (.source user.type) <| .function [user] <| .binary .andAlso
    (.binary .andAlso (.equals (number "Age") (.intConstant 36))
      (.equals (number "Rank")
        (.captured ("p" ++ paddedSuffix 1) (.integer 1) (.number "Int32"))) .boolean)
    (.equals (number "Size") (.intConstant 2)) .boolean

/-- The second number gets another name, and all three have their value. -/
theorem bind_references_stay_imitatingFilter :
    Function.Injective paddedSuffix ∧
      ∃ query, Query.compile .aql {} .imitatingFilter = .ok query ∧
        (query.binds.map Prod.fst).Nodup ∧
        query.binds.map Prod.fst = ["p", "p" ++ paddedSuffix 1, "p" ++ paddedSuffix 2] ∧
        query.binds.map (fun entry => entry.2.integer?) = [some 36, some 1, some 2] := by
  obtain ⟨-, -, -, compiles, -⟩ := bind_references_stay paddedSuffix_injective
  rw [Query.compileWith_paddedSuffix] at compiles
  obtain ⟨query, compiled, names_eq, values_eq⟩ :
      ∃ query, Query.compile .aql {} .imitatingFilter = .ok query ∧
        query.binds.map Prod.fst = ["p", "p" ++ paddedSuffix 1, "p" ++ paddedSuffix 2] ∧
        query.binds.map (fun entry => entry.2.integer?) = [some 36, some 1, some 2] :=
    set_option maxRecDepth 1000 in ⟨_, rfl, rfl, rfl⟩
  obtain ⟨nodup, -⟩ := compiles .aql {} .imitatingFilter query compiled
  exact ⟨paddedSuffix_injective, query, compiled, nodup, names_eq, values_eq⟩

end AqlPipeline
