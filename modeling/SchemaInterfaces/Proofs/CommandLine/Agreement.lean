import SchemaInterfaces.Proofs.CommandLine.Plugin
import SchemaInterfaces.Proofs.CommandLine.Refusals

/-!
# The command and the plugin agree

A schema set to render and a request to the plugin may ask for the same: the same schema files,
output for the last of them, and the same settings, which come from a file here and from a parameter
there. Then either both complain about the schema or neither does, and what one writes is what the
other hands over.
-/

namespace SchemaInterfaces

open Storage

namespace CommandLine

/-! ## What reports tell -/

theorem Step.heading_injective : Function.Injective Step.heading := by
  intro step other h
  cases step <;> cases other <;> simp [heading] at h ⊢

namespace Halt

/-- How a report begins that tells of a failure of a kind in a step. -/
def opening (step : Step) (kind : Failure.Kind) : String :=
  Text.ofLines ["Error: " ++ step.heading, "", "Caused by:"] ++ ("    " ++ kind.heading)

/-- A report tells of a failure of a kind in a step. -/
def Tells (step : Step) (kind : Failure.Kind) (report : String) : Prop :=
  ∃ rest, report = opening step kind ++ rest

/-- A report is cut at its first line feed, with the heading of the step in front. -/
theorem cutAt?_opening (step : Step) (kind : Failure.Kind) (rest : String) :
    Text.Chars.cutAt? '\n' (opening step kind ++ rest).toList =
      some (("Error: " ++ step.heading).toList,
        ("\nCaused by:\n    ").toList ++ (kind.heading.toList ++ rest.toList)) := by
  have hfree : '\n' ∉ ("Error: " ++ step.heading).toList := by cases step <;> decide
  rw [← Text.Chars.cutAt?_append hfree]
  simp [opening]

/-- The first two letters of a heading tell its kind. -/
theorem kind_eq_of_heading_append_eq {kind other : Failure.Kind} {s t : List Char}
    (h : kind.heading.toList ++ s = other.heading.toList ++ t) : kind = other := by
  have hlength : ∀ kind : Failure.Kind, 2 ≤ kind.heading.toList.length := by
    intro kind
    cases kind <;> decide
  have hletters := congrArg (List.take 2) h
  rw [List.take_append_of_le_length (hlength kind),
    List.take_append_of_le_length (hlength other)] at hletters
  cases kind <;> cases other <;> simp [Failure.Kind.heading] at hletters ⊢

theorem eq_of_opening_append_eq {step other : Step} {kind kind' : Failure.Kind}
    {rest rest' : String} (h : opening step kind ++ rest = opening other kind' ++ rest') :
    step = other ∧ kind = kind' := by
  have hcut := congrArg (fun s => Text.Chars.cutAt? '\n' s.toList) h
  simp only [cutAt?_opening, Option.some.injEq, Prod.mk.injEq, String.toList_inj] at hcut
  obtain ⟨hstep, hkind⟩ := hcut
  exact ⟨Step.heading_injective ((String.append_right_inj _).mp hstep),
    kind_eq_of_heading_append_eq (List.append_cancel_left hkind)⟩

theorem tells_report (halt : Halt) : Tells halt.step halt.failure.kind halt.report := by
  have hheading : '\n' ∉ halt.failure.kind.heading.toList := by
    cases halt.failure.kind <;> decide
  obtain ⟨first, others, hparts⟩ := Text.exists_first_part '\n' halt.failure.detail
  rw [Tells, report, Failure.message, hparts _ hheading]
  refine ⟨first ++ "\n" ++ Text.ofLines (others.map ("    " ++ ·)), ?_⟩
  rw [opening, Text.ofLines_append, List.map_cons, Text.ofLines_cons ("    " ++ _)]
  simp only [String.append_assoc]

/-- A report tells of its own failure and of no other. -/
theorem tells_report_iff (halt : Halt) (step : Step) (kind : Failure.Kind) :
    Tells step kind halt.report ↔ halt.step = step ∧ halt.failure.kind = kind := by
  constructor
  · rintro ⟨rest, hrest⟩
    obtain ⟨rest', hrest'⟩ := halt.tells_report
    exact eq_of_opening_append_eq (hrest'.symm.trans hrest)
  · rintro ⟨rfl, rfl⟩
    exact halt.tells_report

theorem not_tells_empty (step : Step) (kind : Failure.Kind) : ¬ Tells step kind "" := by
  rintro ⟨rest, hrest⟩
  simp [opening] at hrest

end Halt

/-! ## Tasks -/

/-- A source and the bytes of a request ask for the same: the schema files of the set are those of
the request, the last of them is its only target, and its parameter says what the settings in the
file say. Where the source is asked for every file, the parameter asks for it as well. -/
structure SameTask (source : Source) (tree : Tree) (bytes : List UInt8) (request : Request)
    (settings : Settings) : Prop where
  ofBytes_eq : Request.ofBytes bytes = .ok request
  schemaSet_eq :
    ((SchemaSet.load (m := StateM Tree) source.schemaSet).run tree).1 = .ok ⟨request.files⟩
  targets_eq : ∃ last, request.files.getLast? = some last ∧ request.targets = [last.nameText]
  settings_eq : ∃ path, source.settings = some path ∧
    ((Settings.load (m := StateM Tree) path).run tree).1 = .ok settings
  parameter_eq : Settings.ofParameter request.parameterText =
    .ok (if source.all then { settings with everyFile := true } else settings)

namespace SameTask

variable {source : Source} {tree : Tree} {pieces : List (List UInt8)} {request : Request}
  {settings : Settings}

theorem settingsIn_eq (h : SameTask source tree pieces.flatten request settings) :
    Session.settingsIn source tree =
      .ok (if source.all then { settings with everyFile := true } else settings) := by
  obtain ⟨path, hpath, hload⟩ := h.settings_eq
  rw [Session.settingsIn, hpath]
  simp only [hload]
  rfl

theorem schemaSet_targets_eq (h : SameTask source tree pieces.flatten request settings) :
    SchemaSet.targets ⟨request.files⟩ = request.targets := by
  obtain ⟨last, hlast, htargets⟩ := h.targets_eq
  rw [SchemaSet.targets, hlast, htargets]
  rfl

end SameTask

/-- Files with different components go to different places. -/
theorem nodup_map_place {files : List Rendered} (hnormal : ∀ file ∈ files, Path.IsNormal file.name)
    (hdistinct : (files.map fun file => Path.components file.name).Nodup) (home : Location)
    (directory : String) : (files.map (Rendered.place home directory)).Nodup := by
  have hplaces : files.map (Rendered.place home directory) =
      (files.map fun file => Path.components file.name).map
        (Path.resolve home directory ++ ·) := by
    rw [List.map_map]
    apply List.map_congr_left
    intro file hfile
    exact (hnormal file hfile).resolve_join home directory
  rw [hplaces]
  exact hdistinct.map (List.append_right_injective _)

/-- Where a command that writes output and a request to the plugin ask for the same, and the output
directory can be created, the command reports a violation of the schema rules if and only if the
response carries an error. If the command succeeds, it lists the files of the response in their
order, each below the output directory; and where their names are normal and no two of them have the
same components, each of these files holds what the response says. -/
theorem render_agrees_with_respond (coloured : Bool) {verbose : Bool} {arguments : List String}
    {source : Source} {output : String} {tree : Tree} {pieces : List (List UInt8)}
    {request : Request} {settings : Settings}
    (harguments : Invocation.ofArguments arguments = .ok ⟨verbose, .render source output⟩)
    (htask : SameTask source tree pieces.flatten request settings)
    (hcreated : (tree.createDirectories output).1 = .ok ()) (input : Input) :
    ∃ outcome after,
      (run (m := StateM Tree) coloured arguments input).run tree = (outcome, after) ∧
        ((∃ step, Halt.Tells step .validation outcome.report) ↔
          (respond { pieces := pieces }).error.isSome) ∧
        (outcome.code = 0 →
          outcome.output = Text.toBytes (Text.ofLines
            (Session.openingLine ⟨coloured, verbose⟩ source ::
              Session.settingsLines ⟨coloured, verbose⟩ output settings ++
                Session.loadedLine ⟨coloured, verbose⟩ ⟨request.files⟩ ::
                  Session.closingLines ⟨coloured, verbose⟩
                    ((respond { pieces := pieces }).files.map fun file =>
                      Path.join output file.name))) ∧
          ((∀ file ∈ (respond { pieces := pieces }).files, Path.IsNormal file.name) →
            ((respond { pieces := pieces }).files.map fun file =>
              Path.components file.name).Nodup →
              ∀ file ∈ (respond { pieces := pieces }).files,
                after.read (Path.join output file.name) = .ok (Text.toBytes file.content))) := by
  have hlines (manner : Manner) : Session.settingsLines manner output
      (if source.all then { settings with everyFile := true } else settings) =
        Session.settingsLines manner output settings := by
    cases source.all <;> rfl
  rw [run_of_render harguments, Session.run_outcome, Session.perform_render,
    htask.settingsIn_eq, respond_of_ofBytes htask.ofBytes_eq, htask.parameter_eq]
  simp only [htask.schemaSet_eq, htask.schemaSet_targets_eq, hlines]
  generalize (if source.all then { settings with everyFile := true } else settings) = chosen
  have hends : Generator.RunEnds output tree
      ((Generator.ofSettings chosen : Generator Id).generate request.files request.targets)
      (((Generator.ofSettings chosen).generateBelow (m := StateM Tree) request.files
        request.targets output).run tree) :=
    Generator.runEnds_generateBelow chosen _ request.files request.targets output tree
  rw [Generator.generate_ofSettings] at hends
  generalize ((Generator.ofSettings chosen).generateBelow (m := StateM Tree) request.files
    request.targets output).run tree = result at hends ⊢
  obtain ⟨result, after⟩ := result
  -- both assemble the same listings, and after that only the command can fail, by writing
  cases hassemble : chosen.assemble request.files request.targets with
  | error failure =>
      obtain ⟨violation, rfl⟩ := Settings.exists_violation_of_assemble hassemble
      rw [hassemble] at hends
      cases hends.eq_error hcreated
      refine ⟨_, _, rfl, ?_, ?_⟩
      · dsimp only
        exact iff_of_true ⟨.render, Halt.tells_report ⟨.render, .violation violation⟩⟩ rfl
      · intro hcode
        cases hcode
  | ok listings =>
      rw [hassemble] at hends
      cases result with
      | error failure =>
          refine ⟨_, _, rfl, ?_, ?_⟩
          · dsimp only
            refine iff_of_false ?_ Bool.false_ne_true
            rintro ⟨step, htells⟩
            have hkind := ((Halt.tells_report_iff ⟨.render, failure⟩ _ _).mp htells).2
            cases hkind.symm.trans hends.kind_eq_rendering
          · intro hcode
            cases hcode
      | ok paths =>
          obtain ⟨rfl, hwrote⟩ := hends.wrote
          refine ⟨_, _, rfl, ?_, ?_⟩
          · refine iff_of_false ?_ Bool.false_ne_true
            rintro ⟨step, htells⟩
            exact Halt.not_tells_empty step .validation htells
          · intro _
            refine ⟨?_, ?_⟩
            · rw [String.empty_append]
              rfl
            · intro hnormal hdistinct
              exact hwrote.forall_read_eq (nodup_map_place hnormal hdistinct tree.home output)

section Shop

open Wire

/-- A request for the last of two schema files, whose only message has no fields. -/
def shopRequest : Request where
  targets := ["shop/item.proto"]
  parameter := some "validate"
  files :=
    [{ name := some "shop/order.proto" },
      { name := some "shop/item.proto", messages := [{ name := some "Item" }] }]

def orderBytes : List UInt8 :=
  Writer.text 1 "shop/order.proto"

def itemBytes : List UInt8 :=
  Writer.text 1 "shop/item.proto" ++ Writer.blob 4 (Writer.text 1 "Item")

def shopBytes : List UInt8 :=
  Writer.text 1 "shop/item.proto" ++ Writer.text 2 "validate" ++ Writer.blob 15 orderBytes ++
    Writer.blob 15 itemBytes

/-- The output for the last file. -/
def itemOutput : Rendered where
  name := "shop/item.ts"
  content := "// Generated by protoc-gen-interfaces from shop/item.proto. Do not edit.\n\n" ++
    "export interface Item \x7b\n\x7d\n"

/-- A directory with settings, and with the same two files as a schema set. -/
def shopTree : Tree where
  home := ["work"]
  entries :=
    [(["work"], .directory), (["work", "strict.yaml"], .file (Text.toBytes "validate: true")),
      (["work", "shop.pb"], .file (Writer.blob 1 orderBytes ++ Writer.blob 1 itemBytes))]

def orderRecord : Record :=
  [(1, .text "shop/order.proto")]

def itemRecord : Record :=
  [(1, .text "shop/item.proto"), (4, .record [(1, .text "Item")])]

theorem reads_orderBytes (limit : Nat) :
    ReadsAll (readField limit .file) (orderRecord.map some) orderBytes :=
  .single (.textField rfl (by decide +kernel))

theorem reads_itemBytes (limit : Nat) :
    ReadsAll (readField (limit + 1) .file) (itemRecord.map some) itemBytes :=
  .append (.single (.textField rfl (by decide +kernel)))
    (.single (.recordField rfl (.single (.textField rfl (by decide +kernel)))
      (by decide +kernel)))

theorem sameTask_shopTree :
    SameTask ⟨"shop.pb", some "strict.yaml", false⟩ shopTree [shopBytes].flatten shopRequest
      { validate := true } where
  ofBytes_eq := by
    have hrecord : Record.ofBytes .request [shopBytes].flatten =
        .ok [(1, .text "shop/item.proto"), (2, .text "validate"), (15, .record orderRecord),
          (15, .record itemRecord)] := by
      rw [List.flatten_singleton]
      exact Record.ofBytes_eq_ok
        ((((ReadsAll.single (.textField rfl (by decide +kernel))).append
          (.single (.textField rfl (by decide +kernel)))).append
            (.single (.recordField rfl (reads_orderBytes _) (by decide +kernel)))).append
              (.single (.recordField rfl (reads_itemBytes _) (by decide +kernel))))
    rw [Request.ofBytes, hrecord]
    rfl
  schemaSet_eq := by
    have hread : shopTree.read "shop.pb" =
        .ok (Writer.blob 1 orderBytes ++ Writer.blob 1 itemBytes) := by decide +kernel
    have hrecord : Record.ofBytes .fileSet (Writer.blob 1 orderBytes ++ Writer.blob 1 itemBytes) =
        .ok [(1, .record orderRecord), (1, .record itemRecord)] :=
      Record.ofBytes_eq_ok
        ((ReadsAll.single (.recordField rfl (reads_orderBytes _) (by decide +kernel))).append
          (.single (.recordField rfl (reads_itemBytes _) (by decide +kernel))))
    rw [SchemaSet.load, Tree.run_bind, Tree.run_read]
    simp only [hread]
    change SchemaSet.ofBytes _ = _
    rw [SchemaSet.ofBytes, hrecord]
    rfl
  targets_eq := ⟨_, rfl, rfl⟩
  settings_eq := ⟨"strict.yaml", rfl, by decide +kernel⟩
  parameter_eq := by decide +kernel

/-- Both give the one interface, below the output directory and in the response. -/
theorem render_agrees_with_respond_shopTree :
    ∃ outcome after,
      (run (m := StateM Tree) false ["render", "-d", "shop.pb", "-c", "strict.yaml", "-o", "out"]
          ⟨[], none⟩).run shopTree = (outcome, after) ∧
        outcome.code = 0 ∧
        (respond { pieces := [shopBytes] }).files = [itemOutput] ∧
        outcome.output = Text.toBytes ("→ Rendering interfaces from: shop.pb\n" ++
          "✓ Loaded 2 descriptors\n\n✓ Generation complete!\n\nGenerated files:\n" ++
            "  📄 out/shop/item.ts\n") ∧
        after.read "out/shop/item.ts" = .ok (Text.toBytes itemOutput.content) := by
  have harguments : Invocation.ofArguments
      ["render", "-d", "shop.pb", "-c", "strict.yaml", "-o", "out"] =
        .ok ⟨false, .render ⟨"shop.pb", some "strict.yaml", false⟩ "out"⟩ := rfl
  have hcreated : (shopTree.createDirectories "out").1 = .ok () := by decide +kernel
  have hcode : ((run (m := StateM Tree) false
      ["render", "-d", "shop.pb", "-c", "strict.yaml", "-o", "out"] ⟨[], none⟩).run
        shopTree).1.code = 0 := by decide +kernel
  have hfiles : (respond { pieces := [shopBytes] }).files = [itemOutput] := by decide +kernel
  obtain ⟨outcome, after, hrun, -, hwritten⟩ :=
    render_agrees_with_respond false harguments sameTask_shopTree hcreated ⟨[], none⟩
  rw [hrun] at hcode
  obtain ⟨hsaid, hread⟩ := hwritten hcode
  rw [hfiles] at hsaid hread
  refine ⟨outcome, after, hrun, hcode, hfiles, ?_, ?_⟩
  · rw [hsaid]
    decide +kernel
  · have hpath : Path.join "out" itemOutput.name = "out/shop/item.ts" := by decide +kernel
    have hcontent := hread (by decide +kernel) (by decide +kernel) itemOutput List.mem_cons_self
    rwa [hpath] at hcontent

end Shop

end CommandLine

end SchemaInterfaces
