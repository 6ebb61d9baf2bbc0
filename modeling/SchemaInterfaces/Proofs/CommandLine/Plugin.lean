import SchemaInterfaces.CommandLine.Run
import SchemaInterfaces.Proofs.Generator
import SchemaInterfaces.Proofs.Response
import SchemaInterfaces.Storage.Tree

/-!
# The contract of a plugin

Whatever bytes come in, a run without arguments succeeds and hands over a response. The response is
either the report of the first stage that fails, without files and without features, or all the
output that was asked for.
-/

namespace SchemaInterfaces

/-- Only faults of the wire format keep bytes from being a request. -/
theorem Request.exists_fault_of_ofBytes {bytes : List UInt8} {failure : Failure}
    (h : ofBytes bytes = .error failure) : ∃ fault, failure = .request fault := by
  rw [ofBytes] at h
  cases hrecord : Wire.Record.ofBytes .request bytes with
  | error fault =>
      rw [hrecord] at h
      exact ⟨fault, (Except.error.inj h).symm⟩
  | ok record =>
      rw [hrecord] at h
      cases h

namespace CommandLine

/-- What a reader finds in the response to a request that cannot be met. -/
def reportView (report : String) : Response.View where
  error := some report
  features := none
  files := []

/-- What a reader finds in a response that hands over files. -/
def outputView (files : List Rendered) : Response.View where
  error := none
  features := some 1
  files := files.map Response.FileView.ofRendered

/-- What the response to the given bytes has to say. The stages are reading the request, reading the
options in its parameter, and checking the schema if the options say so. -/
inductive Answers (bytes : List UInt8) : Response.View → Prop where
  | unreadable {fault : Wire.Fault} :
      Request.ofBytes bytes = .error (.request fault) →
        Answers bytes
          (reportView ("Failed to read request: " ++ (Failure.request fault).message))
  | misconfigured {request : Request} {error : Settings.OptionError} :
      Request.ofBytes bytes = .ok request →
        Settings.ofParameter request.parameterText = .error error →
          Answers bytes
            (reportView ("Failed to parse plugin options: " ++ (Failure.option error).message))
  | rejected {request : Request} {settings : Settings} {violation : Check.Violation} :
      Request.ofBytes bytes = .ok request →
        Settings.ofParameter request.parameterText = .ok settings →
          settings.validate = true → Check.checkFiles request.files = .error violation →
            Answers bytes
              (reportView
                ("Failed to generate interfaces: " ++ (Failure.violation violation).message))
  | met {request : Request} {settings : Settings} :
      Request.ofBytes bytes = .ok request →
        Settings.ofParameter request.parameterText = .ok settings →
          (settings.validate = true → Check.checkFiles request.files = .ok ()) →
            Answers bytes
              (outputView
                ((request.files.filter fun file =>
                    settings.everyFile || request.targets.contains file.nameText).map fun file =>
                  (Listing.ofFile settings.wideIntegers file).render settings.extension))

/-- Only one answer is right. -/
theorem Answers.unique {bytes : List UInt8} {view other : Response.View}
    (h : Answers bytes view) (hother : Answers bytes other) : other = view := by
  -- every stage has one result, so two different answers disagree about some stage
  cases h <;> cases hother <;> simp_all

/-- The response to a request that is read, by the result of each of the stages that follow. -/
theorem respond_of_ofBytes {pieces : List (List UInt8)} {request : Request}
    (h : Request.ofBytes pieces.flatten = .ok request) :
    respond { pieces := pieces } =
      match Settings.ofParameter request.parameterText with
      | .error error => .failed (Halt.line ⟨.readOptions, .option error⟩)
      | .ok settings =>
        match settings.assemble request.files request.targets with
        | .error failure => .failed (Halt.line ⟨.answer, failure⟩)
        | .ok listings => .succeeded (listings.map (Listing.render settings.extension)) := by
  have hinput : Request.ofInput { pieces := pieces } = .ok request := h
  rw [respond, meetRequest, hinput]
  simp only [Step.outcome, Request.settings, Settings.ofOptionText, Generator.generate_ofSettings,
    Except.mapError, bind, Except.bind]
  cases Settings.ofParameter request.parameterText with
  | error error => rfl
  | ok settings =>
      simp only
      cases settings.assemble request.files request.targets <;> rfl

/-- The response answers the bytes that came in. -/
theorem answers_respond (pieces : List (List UInt8)) :
    Answers pieces.flatten (respond { pieces := pieces }).view := by
  cases hread : Request.ofBytes pieces.flatten with
  | error failure =>
      obtain ⟨fault, rfl⟩ := Request.exists_fault_of_ofBytes hread
      have hinput : Request.ofInput { pieces := pieces } = .error (.request fault) := hread
      rw [respond, meetRequest, hinput]
      exact .unreadable hread
  | ok request =>
      rw [respond_of_ofBytes hread]
      cases hoptions : Settings.ofParameter request.parameterText with
      | error error => exact .misconfigured hread hoptions
      | ok settings =>
          simp only [Settings.assemble_eq]
          cases hvalidate : settings.validate with
          | false =>
              simp only [Bool.false_eq_true, if_false, Except.map, List.map_map]
              refine .met hread hoptions ?_
              intro htrue
              cases hvalidate.symm.trans htrue
          | true =>
              cases hcheck : Check.checkFiles request.files with
              | error violation => exact .rejected hread hoptions hvalidate hcheck
              | ok _ =>
                  simp only [if_true, Except.mapError, Except.map, List.map_map]
                  exact .met hread hoptions fun _ => hcheck

theorem features_respond (input : Input) :
    ∀ n ∈ (respond input).features, n < Width.count 64 := by
  rw [respond]
  split
  next files _ =>
    rintro n ⟨⟩
    decide
  next halt _ =>
    rintro n ⟨⟩

/-- A run without arguments succeeds, whatever bytes come in and in whatever pieces. Its output is a
response with the one right answer; lengths in it have 64 bits, which is more than any output needs
that fits in a memory. -/
theorem run_plugin_answers {m : Type → Type} [Monad m] [Storage.Access m] (coloured : Bool)
    (pieces : List (List UInt8)) :
    ∃ output view,
      run (m := m) coloured [] { pieces := pieces } = pure { code := 0, output := output } ∧
        (∀ answer, Answers pieces.flatten answer ↔ answer = view) ∧
          (output.length < Width.count 64 → Response.View.ofBytes output = .ok view) := by
  have hanswers := answers_respond pieces
  refine ⟨_, _, rfl, ?_, Response.view_ofBytes_toBytes (features_respond _)⟩
  intro answer
  constructor
  · intro hanswer
    exact hanswers.unique hanswer
  · rintro rfl
    exact hanswers

open Wire in
/-- A request for one of two files, whose only message has one field. -/
def itemRequest : List UInt8 :=
  Writer.text 1 "shop/item.proto" ++ Writer.text 2 "validate" ++
    Writer.blob 15
      (Writer.text 1 "shop/item.proto" ++
        Writer.blob 4
          (Writer.text 1 "Item" ++
            Writer.blob 2
              (Writer.text 1 "label" ++ Writer.number 3 1 ++ Writer.number 4 1 ++
                Writer.number 5 9))) ++
    Writer.blob 15 (Writer.text 1 "shop/order.proto")

/-- The file that meets the request. -/
def itemView : Response.View :=
  outputView [⟨"shop/item.ts", "// Generated by protoc-gen-interfaces from shop/item.proto. " ++
    "Do not edit.\n\nexport interface Item \x7b\n  label: string;\n\x7d\n"⟩]

open Wire in
/-- A request with the given parameter, for a file that needs one that is not there. -/
def lonelyRequest (parameter : String) : List UInt8 :=
  Writer.text 1 "a.proto" ++ Writer.text 2 parameter ++
    Writer.blob 15 (Writer.text 1 "a.proto" ++ Writer.text 3 "b.proto")

/-- That a run on some bytes puts out a response that reads as given and answers the bytes. -/
def Meets (bytes : List UInt8) (view : Response.View) : Prop :=
  ∃ output, run (m := StateM Storage.Tree) false [] { pieces := [bytes] } =
      pure { code := 0, output := output } ∧
    output.length < Width.count 64 ∧ Response.View.ofBytes output = .ok view ∧
      Answers [bytes].flatten view

/-- One input for each kind of answer. -/
theorem run_plugin_answers_itemRequest :
    Meets itemRequest itemView ∧
      Meets [10, 200]
        (reportView ("Failed to read request: Decode error: " ++
          "Failed to decode CodeGeneratorRequest (is this running as a protoc plugin?): " ++
            "failed to decode Protobuf message: " ++
              "CodeGeneratorRequest.file_to_generate: invalid varint")) ∧
      Meets (lonelyRequest "wide,validate")
        (reportView ("Failed to parse plugin options: Invalid plugin option: " ++
          "unknown options: wide")) ∧
      Meets (lonelyRequest "validate")
        (reportView ("Failed to generate interfaces: Validation error: " ++
          "imported file 'b.proto' has not been added")) := by
  have hmeets (bytes : List UInt8) (expected : Response.View)
      (hresponse : (respond { pieces := [bytes] }).toBytes.length < Width.count 64 ∧
        (Response.View.ofBytes (respond { pieces := [bytes] }).toBytes).toOption =
          some expected) : Meets bytes expected := by
    obtain ⟨output, view, hrun, hanswers, hdecode⟩ :=
      run_plugin_answers (m := StateM Storage.Tree) false [bytes]
    have houtput : (respond { pieces := [bytes] }).toBytes = output :=
      congrArg (fun outcome => (outcome ⟨[], []⟩).1.output) hrun
    rw [houtput] at hresponse
    obtain ⟨hsize, hview⟩ := hresponse
    rw [hdecode hsize] at hview
    cases hview
    exact ⟨output, hrun, hsize, hdecode hsize, (hanswers expected).mpr rfl⟩
  exact ⟨hmeets _ _ (by decide +kernel), hmeets _ _ (by decide +kernel),
    hmeets _ _ (by decide +kernel), hmeets _ _ (by decide +kernel)⟩

end CommandLine

end SchemaInterfaces
