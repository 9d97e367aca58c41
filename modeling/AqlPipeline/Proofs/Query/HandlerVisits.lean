import AqlPipeline.Expr.Build
import AqlPipeline.Proofs.Writer.Visits
import AqlPipeline.Query

/-!
# What exception handling visits

A body with handlers visits the body, then the variable, the filter and the body of each handler,
then what follows on a fault and at the end, each of them once and in this order.  One part may be
lost: a handler that catches all exceptions and does not name them is written without a header, and
the header is where its filter would be.
-/

namespace AqlPipeline

/-! ## Visits inside of visits -/

/-- What is told of a visit: itself, or, if its segment is one of those that are opened, the visits
of its script. -/
def Script.openedVisit (opens : String → Bool) (visit : String × Script) :
    List (List String × Script) :=
  if opens visit.1 then visit.2.visited.map fun inner => ([visit.1, inner.1], inner.2)
  else [([visit.1], visit.2)]

theorem Script.openedVisit_of_closed {opens : String → Bool} {segment : String}
    (closed : opens segment = false) (body : Script) :
    openedVisit opens (segment, body) = [([segment], body)] := by
  simp [openedVisit, closed]

namespace Writer

/-- The visits that a run makes itself, in order, up to where it stops: the segments that lead to
each of them, and what is done there.  Instead of a visit at one of the segments that are opened,
the visits made inside of it are told. -/
def openedVisits (opens : String → Bool) : Script → Writer → List (List String × Script)
  | .done, _ | .fail _, _ => []
  | .step first rest, writer => openedVisits opens rest (writer.apply first)
  | .visit segment body rest, writer =>
    (if opens segment then
      (visitsMade body (writer.enter segment)).map fun inner => ([segment, inner.1], inner.2)
    else [([segment], body)]) ++
      match close (writer.mark segment) (run body (writer.enter segment)) with
      | .finished writer => openedVisits opens rest writer
      | .stopped _ _ | .crashed _ => []

/-- A visit that does not fail by itself and that a run gets behind has come to its own end. -/
theorem finished_of_close {segment : String} {body : Script} {visits : List (String × Script)}
    (makes : body.Makes visits) {before after : Writer}
    (closed : close (before.mark segment) (run body (before.enter segment)) = .finished after) :
    ∃ inside, run body (before.enter segment) = .finished inside := by
  have ends := run_ends body (before.enter segment)
  rcases close_eq_finished closed with ⟨inside, ran, -⟩ | ⟨inside, thing, -, ran, -⟩
  · exact ⟨inside, ran⟩
  · rw [ran] at ends
    exact absurd ⟨thing, ends.1⟩ makes.not_isReplaced

/-- A run that comes to its end has made all visits of its script, and all those inside of the ones
that are opened, if these do not fail by themselves. -/
theorem openedVisits_eq {opens : String → Bool} {script : Script}
    {visits : List (String × Script)} (makes : script.Makes visits)
    (inner : ∀ visit ∈ visits, opens visit.1 → ∃ inner, visit.2.Makes inner)
    {writer after : Writer} (finished : run script writer = .finished after) :
    openedVisits opens script writer = visits.flatMap (Script.openedVisit opens) := by
  induction makes generalizing writer with
  | done => rfl
  | step first _ ih => exact ih inner finished
  | @visit segment body rest visits _ ih =>
      obtain ⟨own, others⟩ := List.forall_mem_cons.mp inner
      rw [run] at finished
      rw [openedVisits, List.flatMap_cons]
      cases closed : close (writer.mark segment) (run body (writer.enter segment)) with
      | stopped middle error | crashed middle =>
          rw [closed] at finished
          cases finished
      | finished middle =>
          rw [closed] at finished
          rw [← ih others finished]
          refine congrArg (· ++ openedVisits opens rest middle) ?_
          unfold Script.openedVisit
          split
          · rename_i opened
            obtain ⟨innerVisits, bodies⟩ := own opened
            obtain ⟨inside, ran⟩ := finished_of_close bodies closed
            rw [visitsMade_eq bodies ran, bodies.visited_eq]
          · rfl

end Writer

/-! ## Handlers and what is around them -/

namespace Render

open Script

variable {dialect : Dialect}

theorem statementEnd_makes (expr : Expr) : Makes (statementEnd expr) [] := by
  cases expr with
  | conditional test ifTrue ifFalse type =>
      simp only [statementEnd]
      split
      · exact .done
      · exact .write _
  | block | switch | label | tryCatch | variablesGroup => exact .done
  | unary operator operand type =>
      cases operator with
      | quote => exact .done
      | _ => exact .write _
  | _ => exact .write _

theorem bracedStatement_makes (segment : String) (placement : Placement) (body : Part) :
    Makes (bracedStatement segment placement body) [(segment, body.scriptAt placement)] := by
  have opened : Makes (write "\x7b" ++ openLines) [] := .step _ (.step _ (.step _ .done))
  have closed : Makes closeLines [] := .step _ (.step _ .done)
  exact ((((opened.append (.enter segment _)).append (statementEnd_makes body.expr)).append
    closed).append_write _)

/-- The visit of a clause that may be missing. -/
def clauseVisits (segment : String) (body : Option Part) : List (String × Script) :=
  (body.map fun body => (segment, body.script)).toList

theorem eq_of_mem_clauseVisits {segment : String} {body : Option Part} {visit : String × Script}
    (member : visit ∈ clauseVisits segment body) : visit.1 = segment := by
  obtain ⟨part, -, rfl⟩ := Option.map_eq_some_iff.mp (Option.mem_toList.mp member)
  rfl

theorem clauseIfAny_makes (word segment : String) (body : Option Part) :
    Makes (clauseIfAny word segment body) (clauseVisits segment body) := by
  cases body with
  | none => exact .done
  | some body => exact .step _ (bracedStatement_makes segment {} body)

theorem tryCatch_makes (body : Part) (handlers : List Script) (fault finalizer : Option Part) :
    Makes (tryCatch body handlers fault finalizer)
      (("Body", body.script) :: (numberedVisits "Handlers" 0 handlers ++
        clauseVisits "Fault" fault ++ clauseVisits "Finally" finalizer)) := by
  have tried : Makes (write "try " ++ bracedStatement "Body" {} body) [("Body", body.script)] :=
    .step _ (bracedStatement_makes "Body" {} body)
  have caught : Makes (join .done ((visits "Handlers" 0 handlers).map (write " " ++ ·)))
      (numberedVisits "Handlers" 0 handlers) :=
    .join_around .done (fun segment body => .step _ (.enter segment body)) _ _ _
  exact ((tried.append caught).append (clauseIfAny_makes " fault " "Fault" fault)).append
    (clauseIfAny_makes " finally " "Finally" finalizer)

/-- The visit of the variable of a handler, if it has one. -/
def variableVisits (exception : Option Parameter) : List (String × Script) :=
  (exception.map fun exception => ("Variable", write exception.name)).toList

/-- The visit of the filter of a handler, if it has one. -/
def filterVisits (filter : Option Part) : List (String × Script) :=
  (filter.map fun filter => ("Filter", filter.scriptAt ⟨.test, false⟩)).toList

theorem catchHeader_makes (test : TypeRef) (exception : Option Parameter) (filter : Option Part) :
    Makes (catchHeader dialect test exception filter)
      (variableVisits exception ++ filterVisits filter) := by
  refine .step _ (.append (.append_write ?named ") ") ?filtered)
  case named =>
    cases exception with
    | none => exact .done
    | some exception => exact .step _ (.enter _ _)
  case filtered =>
    cases filter with
    | none => exact .done
    | some filter => exact .step _ ((Makes.enter _ _).append_write ") ")

end Render

/-! ## Lost filters -/

namespace CatchBlock

open Script

/-- The visits of the parts of a handler: its variable, its filter and its body. -/
def partVisits (dialect : Dialect) : CatchBlock → List (String × Script)
  | .mk _ exception filter body =>
    Render.variableVisits exception ++ Render.filterVisits (Expr.optionalPart dialect filter) ++
      [("Body", body.script dialect ⟨.statements, false⟩)]

/-- Whether a handler has a filter but no header to write it in: it catches all exceptions and does
not name them. -/
def losesFilter : CatchBlock → Bool
  | .mk test none (some _) _ => test.name == "Exception"
  | _ => false

/-- A handler without the filter that it loses. -/
def withoutLost : CatchBlock → CatchBlock
  | .mk test exception filter body =>
    .mk test exception (if losesFilter (.mk test exception filter body) then none else filter) body

/-- A handler with a header keeps its filter. -/
theorem losesFilter_of_headed {test : TypeRef} {exception : Option Parameter}
    (headed : (exception.isSome || test.name != "Exception") = true) (filter : Option Expr)
    (body : Expr) : losesFilter (.mk test exception filter body) = false := by
  cases exception with
  | some exception => rfl
  | none =>
      cases filter with
      | none => rfl
      | some filter => simpa [losesFilter] using headed

/-- A handler visits its parts, but for a filter that it loses. -/
theorem script_makes (dialect : Dialect) (handler : CatchBlock) :
    Makes (handler.script dialect) (handler.withoutLost.partVisits dialect) := by
  obtain ⟨test, exception, filter, body⟩ := handler
  have bodies := Render.bracedStatement_makes "Body" ⟨.statements, false⟩
    ⟨body, body.script dialect⟩
  rw [CatchBlock.script, Render.catchBlock, withoutLost, partVisits]
  refine .append (.step _ ?header) bodies
  split
  · rename_i headed
    rw [losesFilter_of_headed headed]
    exact Render.catchHeader_makes test exception _
  · rename_i headless
    obtain ⟨unnamed, all⟩ : exception = none ∧ test.name = "Exception" := by simpa using headless
    subst unnamed
    cases filter with
    | none => exact .done
    | some filter =>
        have lost : losesFilter (.mk test none (some filter) body) = true := by
          simp [losesFilter, all]
        rw [lost]
        exact .done

theorem scripts_make (dialect : Dialect) (handlers : List CatchBlock) :
    ∀ script ∈ CatchBlock.scripts dialect handlers, ∃ visits, script.Makes visits := by
  induction handlers with
  | nil => exact List.forall_mem_nil _
  | cons handler handlers ih =>
      exact List.forall_mem_cons.mpr ⟨⟨_, handler.script_makes dialect⟩, ih⟩

/-- The visits of the parts of some handlers, the first of them at number `index`. -/
def listVisits (dialect : Dialect) (index : Nat) : List CatchBlock → List (List String × Script)
  | [] => []
  | handler :: handlers =>
    ((handler.partVisits dialect).map fun visit =>
        ([numbered "Handlers" index, visit.1], visit.2)) ++
      listVisits dialect (index + 1) handlers

/-- A lost filter leaves one visit less. -/
theorem length_withoutLost (dialect : Dialect) (handler : CatchBlock) :
    (handler.withoutLost.partVisits dialect).length + (if handler.losesFilter then 1 else 0) =
      (handler.partVisits dialect).length := by
  obtain ⟨test, exception, filter, body⟩ := handler
  rw [withoutLost]
  split
  · rename_i lost
    cases filter with
    | none => cases exception <;> cases lost
    | some filter => simp [partVisits, Render.filterVisits, Expr.optionalPart]
  · rfl

theorem length_listVisits (dialect : Dialect) (index : Nat) (handlers : List CatchBlock) :
    (listVisits dialect index (handlers.map withoutLost)).length + handlers.countP losesFilter =
      (listVisits dialect index handlers).length := by
  induction handlers generalizing index with
  | nil => rfl
  | cons handler handlers ih =>
      have own := handler.length_withoutLost dialect
      have others := ih (index + 1)
      simp only [List.map_cons, listVisits, List.length_append, List.length_map, List.countP_cons]
      omega

theorem withoutLost_eq {handler : CatchBlock} (keeps : handler.losesFilter = false) :
    handler.withoutLost = handler := by
  obtain ⟨test, exception, filter, body⟩ := handler
  simp [withoutLost, keeps]

/-- Some handlers are visited with all their parts if and only if none of them loses its filter. -/
theorem listVisits_withoutLost_iff (dialect : Dialect) (index : Nat) (handlers : List CatchBlock) :
    listVisits dialect index (handlers.map withoutLost) = listVisits dialect index handlers ↔
      ∀ handler ∈ handlers, handler.losesFilter = false := by
  constructor
  · intro same
    have counted := length_listVisits dialect index handlers
    rw [same] at counted
    have none_lost : handlers.countP losesFilter = 0 := by omega
    simpa using List.countP_eq_zero.mp none_lost
  · intro keep
    rw [List.map_congr_left fun handler member => withoutLost_eq (keep handler member),
      List.map_id']

end CatchBlock

namespace Expr

open Script

/-- Whether a segment is that of a handler. -/
def isHandlerSegment (segment : String) : Bool :=
  "Handlers[".toList.isPrefixOf segment.toList

/-- The visits of a body with handlers: the body, then the parts of each handler, then what follows
on a fault and at the end. -/
def tryVisits (dialect : Dialect) (body : Expr) (handlers : List CatchBlock)
    (fault finalizer : Option Expr) : List (List String × Script) :=
  (["Body"], body.script dialect {}) :: (CatchBlock.listVisits dialect 0 handlers ++
    (fault.map fun fault => (["Fault"], fault.script dialect {})).toList ++
    (finalizer.map fun finalizer => (["Finally"], finalizer.script dialect {})).toList)

variable {dialect : Dialect} {body : Expr} {handlers : List CatchBlock}
  {fault finalizer : Option Expr} {type : TypeRef} {placement : Placement} {writer after : Writer}

theorem openedVisit_handlers (dialect : Dialect) (index : Nat) (handlers : List CatchBlock) :
    (numberedVisits "Handlers" index (CatchBlock.scripts dialect handlers)).flatMap
        (openedVisit isHandlerSegment) =
      CatchBlock.listVisits dialect index (handlers.map CatchBlock.withoutLost) := by
  induction handlers generalizing index with
  | nil => rfl
  | cons handler handlers ih =>
      have opened : isHandlerSegment (numbered "Handlers" index) = true := by
        simp [isHandlerSegment, numbered]
      rw [CatchBlock.scripts, numberedVisits, List.flatMap_cons, ih, openedVisit, if_pos opened,
        (handler.script_makes dialect).visited_eq]
      rfl

theorem openedVisit_clause {segment : String} (closed : isHandlerSegment segment = false)
    (dialect : Dialect) (body : Option Expr) :
    (Render.clauseVisits segment (optionalPart dialect body)).flatMap
        (openedVisit isHandlerSegment) =
      (body.map fun body => ([segment], body.script dialect {})).toList := by
  cases body with
  | none => rfl
  | some body => exact (List.flatMap_singleton _ _).trans (openedVisit_of_closed closed _)

/-- Of the visits of a body with handlers, those of the handlers do not fail by themselves. -/
theorem handlers_make (body : Script) (fault finalizer : Option Part) {visit : String × Script}
    (member : visit ∈ ("Body", body) ::
      (numberedVisits "Handlers" 0 (CatchBlock.scripts dialect handlers) ++
        Render.clauseVisits "Fault" fault ++ Render.clauseVisits "Finally" finalizer))
    (opened : isHandlerSegment visit.1 = true) : ∃ inner, visit.2.Makes inner := by
  have apart : ∀ {segment}, isHandlerSegment segment = false → visit.1 ≠ segment := by
    rintro _ closed rfl
    cases closed.symm.trans opened
  rcases List.mem_cons.mp member with rfl | member
  · exact absurd rfl (apart (by decide : isHandlerSegment "Body" = false))
  · rcases List.mem_append.mp member with member | finals
    · rcases List.mem_append.mp member with own | faults
      · exact CatchBlock.scripts_make dialect handlers _ (mem_bodies_of_mem own)
      · exact absurd (Render.eq_of_mem_clauseVisits faults) (apart (by decide))
    · exact absurd (Render.eq_of_mem_clauseVisits finals) (apart (by decide))

/-- The visits of a body with handlers are those of all its parts but the filters that are lost. -/
theorem openedVisits_try
    (finished : Writer.run ((tryCatch body handlers fault finalizer type).script dialect placement)
      writer = .finished after) :
    Writer.openedVisits isHandlerSegment
        ((tryCatch body handlers fault finalizer type).script dialect placement) writer =
      tryVisits dialect body (handlers.map CatchBlock.withoutLost) fault finalizer := by
  rw [Expr.script] at finished ⊢
  have makes := Render.tryCatch_makes ⟨body, body.script dialect⟩
    (CatchBlock.scripts dialect handlers) (optionalPart dialect fault)
    (optionalPart dialect finalizer)
  rw [Writer.openedVisits_eq makes (fun _ => handlers_make _ _ _) finished, List.flatMap_cons,
    List.flatMap_append, List.flatMap_append, openedVisit_handlers,
    openedVisit_of_closed (by decide), openedVisit_clause (by decide),
    openedVisit_clause (by decide)]
  rfl

/-- A body with handlers that comes to its end visits the body, then the variable, the filter and
the body of each handler, then what follows on a fault and at the end, each of them once and in this
order, unless one of the handlers loses its filter.  Then all but the lost filters are visited. -/
theorem try_visits_all_iff
    (finished : Writer.run ((tryCatch body handlers fault finalizer type).script dialect placement)
      writer = .finished after) :
    let visits := Writer.openedVisits isHandlerSegment
      ((tryCatch body handlers fault finalizer type).script dialect placement) writer
    visits = tryVisits dialect body (handlers.map CatchBlock.withoutLost) fault finalizer ∧
      (visits = tryVisits dialect body handlers fault finalizer ↔
        ∀ handler ∈ handlers, handler.losesFilter = false) := by
  intro visits
  have visits_eq : visits = _ := openedVisits_try finished
  refine ⟨visits_eq, ?_⟩
  rw [visits_eq, ← CatchBlock.listVisits_withoutLost_iff dialect 0 handlers]
  simp only [tryVisits, List.cons.injEq, true_and, List.append_assoc, List.append_cancel_right_eq]

/-- Some method of a person is called. -/
def personCall (name : String) : Expr :=
  instanceCall (.parameter ⟨"x", .named "Person"⟩) name [] .void

/-- A handler for exceptions of a type, if the person may try again. -/
def retryHandler (typeName : String) (exception : Option Parameter) : CatchBlock :=
  .mk (.named typeName) exception
    (some (memberOf (.parameter ⟨"x", .named "Person"⟩) "Retry" .boolean)) (personCall "Rest")

theorem try_visits_all_iff_retryHandlers :
    let error : Parameter := ⟨"e", .named "Exception"⟩
    let handlers := [retryHandler "IOException" none, retryHandler "Exception" (some error)]
    let script := (tryCatch (personCall "Touch") handlers none (some (personCall "Close"))
      .void).script .aql {}
    ∃ after, Writer.run script (.start {}) = .finished after ∧
      after.output.text =
        "try \x7bx.Touch();\x7d catch (IOException) when (x.Retry) \x7bx.Rest();\x7d " ++
          "catch (Exception e) when (x.Retry) \x7bx.Rest();\x7d finally \x7bx.Close();\x7d" ∧
      Writer.openedVisits isHandlerSegment script (.start {}) =
        tryVisits .aql (personCall "Touch") handlers none (some (personCall "Close")) := by
  set_option maxRecDepth 1000 in
  refine ⟨_, rfl, ?_, ?_⟩
  · rfl
  · exact (try_visits_all_iff rfl).2.mpr (by decide)

/-- A handler for all exceptions that does not name them is written without its filter. -/
theorem retryHandler_filter_lost :
    let script := (tryCatch (personCall "Touch") [retryHandler "Exception" none] none none
      .void).script .aql {}
    ∃ after, Writer.run script (.start {}) = .finished after ∧
      after.output.text = "try \x7bx.Touch();\x7d catch \x7bx.Rest();\x7d" ∧
      (Writer.openedVisits isHandlerSegment script (.start {})).map Prod.fst =
        [["Body"], ["Handlers[0]", "Body"]] ∧
      Writer.openedVisits isHandlerSegment script (.start {}) ≠
        tryVisits .aql (personCall "Touch") [retryHandler "Exception" none] none none := by
  refine ⟨_, rfl, ?_, ?_, ?_⟩
  · rfl
  · rfl
  · intro same
    have paths := congrArg (List.map Prod.fst) same
    revert paths
    decide

end Expr

end AqlPipeline
