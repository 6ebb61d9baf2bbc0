import Mathlib.Data.List.Nodup
import SchemaInterfaces.Proofs.Generator

/-!
# Names of output

Two schema names give one name of output only if one of them is the other with `.proto` added. So
the names of output are distinct as long as the schema names are, unless two chosen files have such
names.
-/

namespace SchemaInterfaces

namespace Naming

/-- Whether a schema name has the usual ending. -/
def EndsInProto (source : String) : Prop :=
  ".proto".toList <:+ source.toList

instance (source : String) : Decidable (EndsInProto source) :=
  inferInstanceAs (Decidable (_ <:+ _))

theorem stem_append (front : String) : stem (front ++ ".proto") = front := by
  have hsuffix : ".proto".toList.isSuffixOf (front ++ ".proto").toList = true := by simp
  rw [stem, if_pos hsuffix]
  apply String.toList_injective
  simp

theorem stem_eq_self {source : String} (h : ¬ EndsInProto source) : stem source = source :=
  if_neg (by simpa [EndsInProto] using h)

theorem EndsInProto.exists_eq_append {source : String} (h : EndsInProto source) :
    ∃ front, source = front ++ ".proto" := by
  obtain ⟨front, hfront⟩ := h
  refine ⟨String.ofList front, String.toList_injective ?_⟩
  rw [String.toList_append, String.toList_ofList, hfront]

/-- A name without the usual ending, and the same name with it. -/
def Doubles (bare ending : String) : Prop :=
  ¬ EndsInProto bare ∧ ending = bare ++ ".proto"

instance (bare ending : String) : Decidable (Doubles bare ending) :=
  inferInstanceAs (Decidable (_ ∧ _))

theorem Doubles.stem_eq {bare ending : String} (h : Doubles bare ending) :
    stem bare = stem ending := by
  rw [h.2, stem_append, stem_eq_self h.1]

theorem stem_eq_stem_iff {source other : String} :
    stem source = stem other ↔ source = other ∨ Doubles source other ∨ Doubles other source := by
  constructor
  · intro h
    by_cases hsource : EndsInProto source <;> by_cases hother : EndsInProto other
    · obtain ⟨front, rfl⟩ := hsource.exists_eq_append
      obtain ⟨back, rfl⟩ := hother.exists_eq_append
      rw [stem_append, stem_append] at h
      exact Or.inl (by rw [h])
    · obtain ⟨front, rfl⟩ := hsource.exists_eq_append
      rw [stem_append, stem_eq_self hother] at h
      exact Or.inr (Or.inr ⟨hother, by rw [h]⟩)
    · obtain ⟨back, rfl⟩ := hother.exists_eq_append
      rw [stem_append, stem_eq_self hsource] at h
      exact Or.inr (Or.inl ⟨hsource, by rw [h]⟩)
    · rw [stem_eq_self hsource, stem_eq_self hother] at h
      exact Or.inl h
  · rintro (rfl | h | h)
    · rfl
    · exact h.stem_eq
    · exact h.stem_eq.symm

theorem ofFile_eq_ofFile_iff {source other extension : String} :
    ofFile source extension = ofFile other extension ↔
      source = other ∨ Doubles source other ∨ Doubles other source := by
  rw [← stem_eq_stem_iff, ofFile, ofFile, String.append_assoc, String.append_assoc]
  simp [← String.toList_inj]

end Naming

namespace Generator

open Naming

/-- Where the schema names are distinct, so are the names of the output, unless one chosen file is
named like another one with `.proto` added. Two such files give output of one name. -/
theorem nodup_names_iff (settings : Settings) {files : List Descriptor.File}
    (targets : List String) {rendered : List Rendered}
    (hnames : (files.map Descriptor.File.nameText).Nodup)
    (hgenerate : (ofSettings settings : Generator Id).generate files targets = .ok rendered) :
    (rendered.map Rendered.name).Nodup ↔
      ∀ file ∈ settings.chosen files targets, ∀ other ∈ settings.chosen files targets,
        ¬ Doubles file.nameText other.nameText := by
  have hchosen : ((settings.chosen files targets).map Descriptor.File.nameText).Nodup :=
    hnames.sublist (List.filter_sublist.map _)
  have hmap : rendered.map Rendered.name =
      ((settings.chosen files targets).map Descriptor.File.nameText).map
        (ofFile · settings.extension) := by
    rw [map_name_of_generate hgenerate, List.map_map]
    rfl
  rw [hmap, List.nodup_map_iff_inj_on hchosen]
  simp only [List.forall_mem_map, ofFile_eq_ofFile_iff]
  constructor
  · intro h file hfile other hother hdoubles
    have hsame := h file hfile other hother (Or.inr (Or.inl hdoubles))
    rw [hsame] at hdoubles
    exact absurd (congrArg String.length hdoubles.2) (by simp)
  · rintro h file hfile other hother (hsame | hdoubles | hdoubles)
    · exact hsame
    · exact absurd hdoubles (h file hfile other hother)
    · exact absurd hdoubles (h other hother file hfile)

/-- Schema files with and without the usual ending. -/
def mixedFiles : List Descriptor.File :=
  [{ name := some "a.proto" }, { name := some "a.proto.proto" }, { name := some "b" }]

theorem nodup_names_mixedFiles :
    (mixedFiles.map Descriptor.File.nameText).Nodup ∧
      ∃ rendered, (ofSettings { everyFile := true } : Generator Id).generate mixedFiles [] =
          .ok rendered ∧
        (rendered.map Rendered.name).Nodup := by
  have hnames : (mixedFiles.map Descriptor.File.nameText).Nodup := by decide
  refine ⟨hnames, _, rfl, ?_⟩
  rw [nodup_names_iff { everyFile := true } [] hnames rfl]
  decide +kernel

/-- Two schema files that give output of one name. -/
def twinFiles : List Descriptor.File :=
  [{ name := some "a.proto" }, { name := some "a" }]

theorem not_nodup_names_twinFiles :
    (twinFiles.map Descriptor.File.nameText).Nodup ∧
      ∃ rendered, (ofSettings {} : Generator Id).generate twinFiles ["a.proto", "a"] =
          .ok rendered ∧
        ¬ (rendered.map Rendered.name).Nodup := by
  refine ⟨by decide, _, rfl, ?_⟩
  decide +kernel

end Generator

end SchemaInterfaces
