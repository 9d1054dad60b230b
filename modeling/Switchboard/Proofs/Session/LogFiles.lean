/-
# Where the lines of a channel go

The file of a channel is named for the channel by its slug.  A slug holds nothing
that leads anywhere, so whatever a channel is called, and that is up to the version
that an installation states, its file is an entry of the log directory itself
(`Channel.logFile_in_directory`); and since the words of a name can be read off its
slug, channels share a file only when their names have the same words.
-/

import Switchboard.Proofs.Disk.Growth
import Switchboard.Proofs.Path.Ancestors
import Switchboard.Proofs.Text.Lossy
import Switchboard.Proofs.Text.Slug
import Switchboard.Session.Basic

namespace Switchboard
namespace Channel

variable {name : String} {c : Char}

/-- The name of a log is the slug and the extension. -/
theorem toList_fileName (name : String) :
    (fileName name).toList = Slug.ofChars name.toList ++ ['.', 'l', 'o', 'g'] := by
  rw [fileName, Slug.ofString, String.toList_append, String.toList_ofList]
  rfl

/-- The name of a log is plain text. -/
theorem toNat_lt_of_mem_fileName (h : c ∈ (fileName name).toList) : c.toNat < 128 := by
  rw [toList_fileName, List.mem_append] at h
  rcases h with h | h
  · rcases Slug.isPlain_or_dash h with hplain | rfl
    · have hrange := Slug.isPlain_iff.1 hplain
      omega
    · decide
  · have hext : ∀ c ∈ ['.', 'l', 'o', 'g'], c.toNat < 128 := by simp
    exact hext c h

/-- The name of a log file is a name, whatever the channel is called. -/
theorem isName_fileName (name : String) : Path.IsName (Utf8.encode (fileName name)) := by
  have hbytes : Utf8.encode (fileName name) =
      Json.ascii (Slug.ofChars name.toList) ++ [0x2E, 0x6C, 0x6F, 0x67] := by
    have hascii := Utf8.ascii_eq_encode fun c hc => @toNat_lt_of_mem_fileName name c hc
    rw [String.ofList_toList] at hascii
    rw [← hascii, toList_fileName, Json.ascii, List.map_append]
    rfl
  have hlength : 4 ≤ (Utf8.encode (fileName name)).length := by
    rw [hbytes, List.length_append, List.length_cons]
    simp
  refine ⟨?_, ?_, ?_, ?_⟩
  · intro hnil
    rw [hnil] at hlength
    exact absurd hlength (by decide)
  · intro hdot
    rw [hdot] at hlength
    exact absurd hlength (by decide)
  · intro hup
    rw [hup] at hlength
    exact absurd hlength (by decide)
  · intro hseparator
    have hslash : '/' ∈ (fileName name).toList := Utf8.separator_mem_encode_iff.1 hseparator
    rw [toList_fileName, List.mem_append] at hslash
    rcases hslash with hslash | hslash
    · rcases Slug.isPlain_or_dash hslash with hplain | hdash
      · exact absurd hplain (by decide)
      · exact absurd hdash (by decide)
    · exact absurd hslash (by decide)

/-- Whether a file is an entry of a directory, under the name that belongs to a channel: its
path has one component more than the directory's, and the directory is its parent. -/
structure LiesIn (file : LogFile) (dir : Path) (name : String) : Prop where
  named : Path.IsName (Utf8.encode (fileName name))
  components : file.path.components = dir.components ++ [.name (Utf8.encode (fileName name))]
  parent : ∃ q, file.path.parent = some q ∧ q.components = dir.components

/-- The path of a name in a directory has the directory for its parent. -/
theorem exists_parent_child (dir : Path) (name : String) :
    ∃ q, (dir.child (fileName name)).parent = some q ∧ q.components = dir.components := by
  have hchild : (dir.child (fileName name)).components =
      dir.components ++ [.name (Utf8.encode (fileName name))] :=
    Path.components_join dir (isName_fileName name)
  cases hparent : (dir.child (fileName name)).parent with
  | none =>
    -- Only the root and the empty path have no parent, and neither ends with a name.
    have hlast : (dir.child (fileName name)).components.getLast? =
        some (.name (Utf8.encode (fileName name))) := by
      rw [hchild, List.getLast?_concat]
    rcases Path.components_of_parent_none hparent with hnone | hnone
    · rw [hnone] at hlast
      exact absurd hlast (by simp)
    · rw [hnone] at hlast
      exact absurd hlast (by simp)
  | some q =>
    obtain ⟨c, hc⟩ := Path.components_of_parent hparent
    rw [hchild] at hc
    exact ⟨q, rfl, (List.append_inj' hc rfl).1.symm⟩

/-- **The file that a channel is opened with lies in the log directory itself.** -/
theorem liesIn_of_make {d : Disk} {dir : Path} {file : LogFile}
    (h : (make d name (some dir)).1.file = some file) : LiesIn file dir name := by
  unfold make at h
  dsimp only at h
  split at h
  next opened d' hopen =>
    obtain rfl := Option.some.inj h
    obtain ⟨-, -, -, hpath⟩ := of_openFile hopen
    refine ⟨isName_fileName name, ?_, ?_⟩
    · rw [hpath]
      exact Path.components_join dir (isName_fileName name)
    · rw [hpath]
      exact exists_parent_child dir name
  next => exact absurd h (by simp)

/-- **A channel keeps its lines in the log directory, in a file that its words name.**
The slug of any name is its runs of ASCII letters and digits, in lower case, with single
dashes between them; it is its own slug, and two names share one exactly when they have the
same words.  So whatever a channel is called, its file is an entry of the log directory
itself, and so is the file of every session, whatever text its version is. -/
theorem logFile_in_directory (name other : String) (d : Disk) (dir : Path) (x : Session)
    (site : Site) (ctx : SessionContext) :
    (Slug.ofString name).toList = ['-'].intercalate (Slug.words name.toList) ∧
      Slug.IsSlug (Slug.ofString name).toList ∧
      Slug.ofString (Slug.ofString name) = Slug.ofString name ∧
      (Slug.ofString name = Slug.ofString other ↔
        Slug.words name.toList = Slug.words other.toList) ∧
      (∀ file, (make d name (some dir)).1.file = some file → LiesIn file dir name) ∧
      ∀ file, x.channel = none → ctx.logDir = some dir →
        (x.openChannel site ctx).1.file = some file → LiesIn file dir x.channelName := by
  have hslug : (Slug.ofString name).toList = Slug.ofChars name.toList := String.toList_ofList
  refine ⟨?_, ?_, ?_, ?_, ?_, ?_⟩
  · rw [hslug, Slug.ofChars_eq]
  · rw [hslug]
    exact Slug.isSlug_ofChars name.toList
  · rw [Slug.ofString, hslug, Slug.ofChars_ofChars]
    rfl
  · rw [← Slug.ofChars_eq_iff, Slug.ofString, Slug.ofString, String.ofList_inj]
  · intro file hfile
    exact liesIn_of_make hfile
  · intro file hchannel hdir hfile
    unfold Session.openChannel at hfile
    rw [hchannel, hdir] at hfile
    exact liesIn_of_make hfile

/-- A version that would lead out of the directory if it were taken as it is. -/
theorem logFile_in_directory_climbing :
    let d : Disk := ⟨.directory [], [], Platform.linux⟩
    let dir := Path.ofText "/logs"
    let x : Session := ⟨1, ⟨"../../Etc/passwd"⟩, .ofText "/b", [], none, none⟩
    let ctx : SessionContext := ⟨some dir, 5, 5, [], 7⟩
    ∃ file, x.channel = none ∧ ctx.logDir = some dir ∧
      (make d x.channelName (some dir)).1.file = some file ∧
      (x.openChannel (.ofDisk d) ctx).1.file = some file ∧
      file.path = .ofText "/logs/biome-etc-passwd-lsp.log" ∧ LiesIn file dir x.channelName := by
  intro d dir x ctx
  let file : LogFile := ⟨.ofText "/logs/biome-etc-passwd-lsp.log",
    ["logs", "biome-etc-passwd-lsp.log"].map Utf8.encode⟩
  have hfile : (make d x.channelName (some dir)).1.file = some file := by decide +kernel
  have hopened : (x.openChannel (.ofDisk d) ctx).1.file = some file := by decide +kernel
  have hlies := (logFile_in_directory x.channelName "" d dir x (.ofDisk d) ctx).2.2.2.2
  exact ⟨file, rfl, rfl, hfile, hopened, rfl, hlies.2 file rfl rfl hopened⟩

end Channel
end Switchboard
