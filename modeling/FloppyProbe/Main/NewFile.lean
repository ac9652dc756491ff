import FloppyProbe.Main.OutputFile
import Mathlib.Logic.Function.Basic

/-!
# The output file is written completely or not at all

What the calls of `write_new_image` do to the files of a system (`FileStore`). A run that returns
true has created the file and written the image into it; any other run leaves every file as it
was, with the created file removed again.
-/

namespace M65

open Interaction

/-! ## Files -/

/-- The contents of the files, and the path of the open one. -/
structure FileStore where
  contents : CString → Option (List UInt8)
  descriptor : Option CString

/-- A call to the file system, with its reply. -/
abbrev FileEvent (S : Type) : Type := Event S FileReply

variable {S : Type}

namespace FileStore

/-- The store with other contents at a path, or with no file there. -/
def setContents (store : FileStore) (path : CString) (bytes : Option (List UInt8)) : FileStore :=
  { store with contents := Function.update store.contents path bytes }

/-- The files after a call. -/
def after (store : FileStore) : FileEvent S → FileStore
  | ⟨_, .openExclusive path, none⟩ => { store.setContents path (some []) with descriptor := path }
  | ⟨_, .openExclusive _, some _⟩ => store
  | ⟨_, .write _, .failed _⟩ => store
  | ⟨_, .write bytes, .wrote count⟩ =>
      match store.descriptor with
      | some path =>
          store.setContents path ((store.contents path).map (· ++ bytes.take count))
      | none => store
  | ⟨_, .close, _⟩ => { store with descriptor := none }
  | ⟨_, .unlink path, removed⟩ => if removed = true then store.setContents path none else store

/-- What is stored at a path is its contents. -/
@[simp]
theorem contents_setContents (store : FileStore) (path : CString) (bytes : Option (List UInt8)) :
    (store.setContents path bytes).contents path = bytes :=
  Function.update_self _ _ _

/-- A change of the contents keeps the open file. -/
@[simp]
theorem descriptor_setContents (store : FileStore) (path : CString)
    (bytes : Option (List UInt8)) :
    (store.setContents path bytes).descriptor = store.descriptor := rfl

/-- The second of two changes at a path counts. -/
@[simp]
theorem setContents_setContents (store : FileStore) (path : CString)
    (first second : Option (List UInt8)) :
    (store.setContents path first).setContents path second = store.setContents path second := by
  simp [setContents]

/-- Storing what is there changes nothing. -/
theorem setContents_eq_self {store : FileStore} {path : CString} {bytes : Option (List UInt8)}
    (h : store.contents path = bytes) : store.setContents path bytes = store := by
  subst h
  simp [setContents]

/-- The files after the calls of a trace. -/
def afterAll (store : FileStore) (t : List (FileEvent S)) : FileStore := t.foldl after store

/-- The first call of a trace comes first. -/
theorem afterAll_cons (store : FileStore) (e : FileEvent S) (t : List (FileEvent S)) :
    store.afterAll (e :: t) = (store.after e).afterAll t := rfl

/-- A write changes nothing but the open file. -/
theorem after_write {store : FileStore} {path : CString} (hopen : store.descriptor = some path)
    (s : S) (bytes : List UInt8) (reply : WriteReply bytes.length) :
    ∃ contents, store.after (⟨s, .write bytes, reply⟩ : FileEvent S) =
      store.setContents path contents := by
  cases reply with
  | failed text => exact ⟨_, (setContents_eq_self rfl).symm⟩
  | wrote count =>
      refine ⟨(store.contents path).map (· ++ bytes.take count), ?_⟩
      simp only [after, hopen]

/-- An exclusive creation succeeds only where there is no file, and `unlink` succeeds. -/
def Permits (store : FileStore) : FileEvent S → Prop
  | ⟨_, .openExclusive path, none⟩ => store.contents path = none
  | ⟨_, .unlink _, removed⟩ => removed = true
  | _ => True

/-- Every call of the trace is answered as the files permit it. -/
def PermitsAll (store : FileStore) : List (FileEvent S) → Prop
  | [] => True
  | e :: t => store.Permits e ∧ (store.after e).PermitsAll t

end FileStore

/-- The exclusive creation succeeded. -/
def Creates : FileEvent S → Prop
  | ⟨_, .openExclusive _, failure⟩ => failure = none
  | _ => False

/-- The file was closed without an error. -/
def Closes : FileEvent S → Prop
  | ⟨_, .close, failure⟩ => failure = none
  | _ => False

/-- The number of bytes that a call wrote. -/
def writtenBy : FileEvent S → ℕ
  | ⟨_, .write _, .wrote count⟩ => count
  | _ => 0

/-- The number of bytes that a trace wrote. -/
def writtenBytes (t : List (FileEvent S)) : ℕ := (t.map writtenBy).sum

/-! ## The loop -/

/-- What the loop does with the bytes that are left. -/
inductive RestRun (path : CString) : List UInt8 → List (FileEvent S) → Except ErrorText Unit → Prop
  | done : RestRun path [] [] (.ok ())
  | failed {rest : List UInt8} {s₁ s₂ s₃ : S} {reply : WriteReply rest.length}
      {closed : Option CString} {removed : Bool} {detail : ErrorText} (hrest : rest ≠ [])
      (hreply : writtenBy ⟨s₁, .write rest, reply⟩ = 0) :
      RestRun path rest
        [⟨s₁, .write rest, reply⟩, ⟨s₂, .close, closed⟩, ⟨s₃, .unlink path, removed⟩]
        (.error detail)
  | wrote {rest : List UInt8} {s : S} {count : Fin (rest.length + 1)} {t : List (FileEvent S)}
      {out : Except ErrorText Unit} (hcount : (count : ℕ) ≠ 0)
      (hnext : RestRun path (rest.drop count) t out) :
      RestRun path rest (⟨s, .write rest, .wrote count⟩ :: t) out

variable {path : CString} {rest image : List UInt8} {s s' : S} {t : List (FileEvent S)}
  {out : Except ErrorText Unit}

/-- The cleanup of a write that made no progress. -/
theorem exec_cleanup {detail : ErrorText}
    (h : Exec (do
      let _ ← closeFile
      let _ ← unlinkFile path
      return .error detail) s t out s') :
    ∃ closed removed, t = [⟨s, .close, closed⟩, ⟨s, .unlink path, removed⟩] ∧
      out = .error detail := by
  simp only [closeFile, unlinkFile, exec_bind, exec_call, exec_pure] at h
  obtain ⟨_, closed, _, _, ⟨rfl, rfl⟩,
    ⟨_, removed, _, _, ⟨rfl, rfl⟩, ⟨rfl, rfl, rfl⟩, rfl⟩, rfl⟩ := h
  exact ⟨closed, removed, rfl, rfl⟩

/-- Every execution of the loop is one of its cases. -/
theorem restRun_of_exec (h : Exec (writeRest path rest) s t out s') : RestRun path rest t out := by
  induction hlength : rest.length using Nat.strongRecOn generalizing rest s t with
  | ind n ih =>
      rw [writeRest] at h
      simp only [exec_ite, exec_pure] at h
      rcases h with ⟨rfl, rfl, rfl, rfl⟩ | ⟨hrest, h⟩
      · exact .done
      rw [writeBytes, exec_call_bind] at h
      obtain ⟨reply, t', h, rfl⟩ := h
      cases reply with
      | failed text =>
          obtain ⟨closed, removed, rfl, rfl⟩ := exec_cleanup h
          exact .failed hrest rfl
      | wrote count =>
          dsimp only at h
          -- a write of zero bytes is given up, since the loop would not advance
          by_cases hcount : (count : ℕ) = 0
          · rw [dif_pos hcount] at h
            obtain ⟨closed, removed, rfl, rfl⟩ := exec_cleanup h
            exact .failed hrest hcount
          · rw [dif_neg hcount] at h
            have hpos : 0 < rest.length := List.length_pos_iff.2 hrest
            -- every other write leaves less to do, which is what the induction is on
            have hlt : (rest.drop count).length < n := by
              rw [List.length_drop]
              omega
            exact .wrote hcount (ih _ hlt h rfl)

namespace RestRun

/-- Each write but the last one moves the offset, and two more calls clean up. -/
theorem length_le (h : RestRun path rest t out) :
    t.length ≤ rest.length + 2 ∧ (out = .ok () → t.length ≤ rest.length) := by
  induction h with
  | done => exact ⟨Nat.zero_le _, fun _ => Nat.le_refl _⟩
  | @failed rest _ _ _ _ _ _ _ hrest _ =>
      have hpos : 0 < rest.length := List.length_pos_iff.2 hrest
      refine ⟨?_, nofun⟩
      show 3 ≤ rest.length + 2
      omega
  | @wrote rest _ count t out hcount _ ih =>
      have hle := count.isLt
      obtain ⟨hall, hok⟩ := ih
      rw [List.length_drop] at hall hok
      rw [List.length_cons]
      refine ⟨by omega, fun hout => ?_⟩
      have hlength := hok hout
      omega

/-- The writes of a run that goes to the end add up to the length, and those of a run that fails
do not. -/
theorem ok_iff (h : RestRun path rest t out) : out = .ok () ↔ writtenBytes t = rest.length := by
  induction h with
  | done => exact iff_of_true rfl rfl
  | failed hrest hreply =>
      refine iff_of_false nofun fun hall => hrest (List.eq_nil_of_length_eq_zero ?_)
      rw [← hall]
      simp only [writtenBytes, List.map_cons, List.sum_cons, List.map_nil, List.sum_nil, hreply]
      rfl
  | @wrote rest s count t out hcount _ ih =>
      have hle := count.isLt
      have hsum : writtenBytes (⟨s, .write rest, .wrote count⟩ :: t) = count + writtenBytes t := rfl
      rw [ih, hsum, List.length_drop]
      omega

/-- A loop that succeeds leaves the file open. -/
theorem not_closes (h : RestRun path rest t out) (hout : out = .ok ()) : ∀ e ∈ t, ¬Closes e := by
  induction h with
  | done => nofun
  | failed => cases hout
  | wrote _ _ ih => exact List.forall_mem_cons.2 ⟨id, ih hout⟩

/-- The bytes that are left are appended to the open file. -/
theorem afterAll_of_ok (h : RestRun path rest t out) (hout : out = .ok ()) {store : FileStore}
    (hopen : store.descriptor = some path) {before : List UInt8}
    (hbefore : store.contents path = some before) :
    store.afterAll t = store.setContents path (some (before ++ rest)) := by
  induction h generalizing store before with
  | done =>
      rw [List.append_nil]
      exact (FileStore.setContents_eq_self hbefore).symm
  | failed => cases hout
  | @wrote rest s count t out hcount _ ih =>
      have hwrite : store.after (⟨s, .write rest, .wrote count⟩ : FileEvent S) =
          store.setContents path (some (before ++ rest.take count)) := by
        simp only [FileStore.after, hopen, hbefore]
        rfl
      have hopen' (bytes : Option (List UInt8)) :
          (store.setContents path bytes).descriptor = some path := hopen
      have hstored := store.contents_setContents path (some (before ++ rest.take count))
      rw [FileStore.afterAll_cons, hwrite, ih hout (hopen' _) hstored,
        FileStore.setContents_setContents, List.append_assoc, List.take_append_drop]

/-- A run that fails removes the open file. -/
theorem afterAll_of_failed (h : RestRun path rest t out) (hout : out ≠ .ok ())
    {store : FileStore} (hpermits : store.PermitsAll t) (hopen : store.descriptor = some path) :
    store.afterAll t = { store.setContents path none with descriptor := none } := by
  induction h generalizing store with
  | done => exact absurd rfl hout
  | @failed rest s₁ s₂ s₃ reply closed removed detail hrest hreply =>
      obtain ⟨contents, hwrite⟩ := store.after_write hopen s₁ rest reply
      obtain ⟨-, -, hremoved, -⟩ := hpermits
      have hremoved : removed = true := hremoved
      rw [FileStore.afterAll_cons, hwrite, hremoved]
      simp [FileStore.afterAll, FileStore.after, FileStore.setContents]
  | @wrote rest s count t out hcount _ ih =>
      obtain ⟨contents, hwrite⟩ := store.after_write hopen s rest (.wrote count)
      have hrest := hpermits.2
      rw [hwrite] at hrest
      rw [FileStore.afterAll_cons, hwrite, ih hout hrest hopen, FileStore.setContents_setContents]

end RestRun

/-! ## The whole file -/

/-- What a call of `write_new_image` does. -/
inductive NewImageRun (path : CString) (image : List UInt8) :
    List (FileEvent S) → Except ErrorText Unit → Prop
  | forbidden {detail : ErrorText} : NewImageRun path image [] (.error detail)
  | refused {s : S} {failure : CString} {detail : ErrorText} :
      NewImageRun path image [⟨s, .openExclusive path, some failure⟩] (.error detail)
  | unwritten {s : S} {t : List (FileEvent S)} {detail : ErrorText}
      (hrest : RestRun path image t (.error detail)) :
      NewImageRun path image (⟨s, .openExclusive path, none⟩ :: t) (.error detail)
  | written {s s₁ : S} {t : List (FileEvent S)} (hrest : RestRun path image t (.ok ())) :
      NewImageRun path image (⟨s, .openExclusive path, none⟩ :: (t ++ [⟨s₁, .close, none⟩]))
        (.ok ())
  | unclosed {s s₁ s₂ : S} {t : List (FileEvent S)} {failure : CString} {removed : Bool}
      {detail : ErrorText} (hrest : RestRun path image t (.ok ())) :
      NewImageRun path image (⟨s, .openExclusive path, none⟩ ::
        (t ++ [⟨s₁, .close, some failure⟩, ⟨s₂, .unlink path, removed⟩])) (.error detail)

/-- Every execution of `write_new_image` is one of its cases. -/
theorem newImageRun_of_exec (h : Exec (writeNewImage path image) s t out s') :
    NewImageRun path image t out := by
  unfold writeNewImage at h
  rw [exec_ite] at h
  rcases h with ⟨-, h⟩ | ⟨-, h⟩
  · obtain ⟨rfl, rfl, -⟩ := exec_pure.1 h
    exact .forbidden
  rw [openExclusive, exec_call_bind] at h
  obtain ⟨failure, t₁, h, rfl⟩ := h
  -- a file that could not be created is not there to be removed
  cases failure with
  | some text =>
      obtain ⟨rfl, rfl, -⟩ := exec_pure.1 h
      exact .refused
  | none =>
      dsimp only at h
      rw [exec_bind] at h
      obtain ⟨u, written, s₁, v, hwrite, h, rfl⟩ := h
      have hrest := restRun_of_exec hwrite
      cases written with
      | error detail =>
          obtain ⟨rfl, rfl, -⟩ := exec_pure.1 h
          rw [List.append_nil]
          exact .unwritten hrest
      | ok =>
          dsimp only at h
          rw [closeFile, exec_call_bind] at h
          obtain ⟨closed, v, h, rfl⟩ := h
          cases closed with
          | none =>
              obtain ⟨rfl, rfl, -⟩ := exec_pure.1 h
              exact .written hrest
          -- the image is complete, but a failed close takes it away again
          | some text =>
              dsimp only at h
              rw [unlinkFile, exec_call_bind] at h
              obtain ⟨removed, w, h, rfl⟩ := h
              obtain ⟨rfl, rfl, -⟩ := exec_pure.1 h
              exact .unclosed hrest

/-- A call of `write_new_image` and the files. -/
structure AllOrNothing (path : CString) (image : List UInt8) (t : List (FileEvent S))
    (out : Except ErrorText Unit) : Prop where
  /-- The call terminates: no write is repeated without progress. -/
  length_le : t.length ≤ image.length + 3
  ok_iff : out = .ok () ↔
    (∃ e ∈ t, Creates e) ∧ writtenBytes t = image.length ∧ ∃ e ∈ t, Closes e
  /-- The file holds the image, and all other files are as they were. -/
  complete : out = .ok () → ∀ store : FileStore,
    (store.afterAll t).contents = Function.update store.contents path (some image)
  /-- No file is created, modified or removed. -/
  undone : out ≠ .ok () → ∀ store : FileStore, store.PermitsAll t →
    (store.afterAll t).contents = store.contents

/-- The bytes of two traces are counted together. -/
theorem writtenBytes_append (t t' : List (FileEvent S)) :
    writtenBytes (t ++ t') = writtenBytes t + writtenBytes t' := by
  rw [writtenBytes, List.map_append, List.sum_append]
  rfl

namespace FileStore

/-- Two traces change the files one after the other. -/
theorem afterAll_append (store : FileStore) (t t' : List (FileEvent S)) :
    store.afterAll (t ++ t') = (store.afterAll t).afterAll t' :=
  List.foldl_append

/-- The files permit two traces one after the other. -/
theorem permitsAll_append {store : FileStore} {t t' : List (FileEvent S)} :
    store.PermitsAll (t ++ t') ↔ store.PermitsAll t ∧ (store.afterAll t).PermitsAll t' := by
  induction t generalizing store with
  | nil => simp [PermitsAll, afterAll]
  | cons e t ih =>
      rw [List.cons_append, PermitsAll, PermitsAll, ih, and_assoc]
      rfl

end FileStore

/-- `write_new_image` succeeds exactly when it created the file, wrote all bytes and closed it. -/
theorem NewImageRun.ok_iff (h : NewImageRun path image t out) : out = .ok () ↔
    (∃ e ∈ t, Creates e) ∧ writtenBytes t = image.length ∧ ∃ e ∈ t, Closes e := by
  have hopened (s : S) (t : List (FileEvent S)) :
      writtenBytes (⟨s, .openExclusive path, none⟩ :: t) = writtenBytes t := Nat.zero_add _
  cases h with
  | forbidden => exact iff_of_false nofun nofun
  | refused => exact iff_of_false nofun (by simp [Creates])
  | unwritten hrest =>
      -- a run that stopped in the loop wrote less than the image
      refine iff_of_false nofun ?_
      rintro ⟨-, hall, -⟩
      rw [hopened] at hall
      exact absurd (hrest.ok_iff.2 hall) nofun
  | @written s s₁ t hrest =>
      refine iff_of_true rfl ⟨⟨_, List.mem_cons_self, rfl⟩, ?_, ⟨⟨s₁, .close, none⟩, by simp, rfl⟩⟩
      rw [hopened, writtenBytes_append, hrest.ok_iff.1 rfl]
      rfl
  | unclosed hrest =>
      -- all bytes are written here, but the file was not closed without an error
      refine iff_of_false nofun ?_
      rintro ⟨-, -, e, he, hclosed⟩
      rcases List.mem_cons.1 he with rfl | he
      · exact hclosed
      rcases List.mem_append.1 he with he | he
      · exact hrest.not_closes rfl e he hclosed
      · simp only [List.mem_cons, List.not_mem_nil, or_false] at he
        rcases he with rfl | rfl
        · exact absurd hclosed nofun
        · exact hclosed

/-- `write_new_image` makes at most one call for each byte, and three more. -/
theorem NewImageRun.length_le (h : NewImageRun path image t out) :
    t.length ≤ image.length + 3 := by
  cases h with
  | forbidden => exact Nat.zero_le _
  | refused => exact Nat.le_add_left 1 (image.length + 2)
  | unwritten hrest =>
      have hle := hrest.length_le.1
      rw [List.length_cons]
      omega
  | written hrest | unclosed hrest =>
      have hle := hrest.length_le.2 rfl
      simp only [List.length_cons, List.length_append, List.length_nil]
      omega

/-- The files after the exclusive creation, and after the image was written to the end. -/
theorem RestRun.afterAll_created {t : List (FileEvent S)}
    (h : RestRun path image t (.ok ())) (store : FileStore) (s : S) :
    store.afterAll (⟨s, .openExclusive path, none⟩ :: t) =
      { store.setContents path (some image) with descriptor := some path } := by
  let opened : FileStore := { store.setContents path (some []) with descriptor := some path }
  have hopened := @RestRun.afterAll_of_ok _ _ _ _ _ h rfl opened rfl _
    (store.contents_setContents path (some []))
  rw [FileStore.afterAll_cons]
  refine hopened.trans ?_
  simp [opened, FileStore.setContents]

/-- After a success the path has the image and the other files are as before. -/
theorem NewImageRun.complete (h : NewImageRun path image t out) (hout : out = .ok ())
    (store : FileStore) :
    (store.afterAll t).contents = Function.update store.contents path (some image) := by
  cases h with
  | forbidden => cases hout
  | refused => cases hout
  | unwritten => cases hout
  | written hrest =>
      rw [← List.cons_append, FileStore.afterAll_append, hrest.afterAll_created]
      rfl
  | unclosed => cases hout

/-- After a failure all files are as before. -/
theorem NewImageRun.undone (h : NewImageRun path image t out) (hout : out ≠ .ok ())
    {store : FileStore} (hpermits : store.PermitsAll t) :
    (store.afterAll t).contents = store.contents := by
  cases h with
  | forbidden => rfl
  | refused => rfl
  | unwritten hrest =>
      have hnew : store.contents path = none := hpermits.1
      rw [FileStore.afterAll_cons, hrest.afterAll_of_failed nofun hpermits.2 rfl]
      show Function.update (Function.update store.contents path (some [])) path none = _
      rw [Function.update_idem, Function.update_eq_self_iff, hnew]
  | written => exact absurd rfl hout
  | @unclosed s s₁ s₂ t failure removed detail hrest =>
      have hnew : store.contents path = none := hpermits.1
      rw [← List.cons_append] at hpermits ⊢
      obtain ⟨-, -, hremoved, -⟩ := FileStore.permitsAll_append.1 hpermits
      have hremoved : removed = true := hremoved
      rw [FileStore.afterAll_append, hrest.afterAll_created, hremoved]
      show Function.update (Function.update store.contents path (some image)) path none = _
      rw [Function.update_idem, Function.update_eq_self_iff, hnew]

/-- Every execution of `write_new_image` leaves the whole image or nothing. -/
theorem allOrNothing_of_exec (h : Exec (writeNewImage path image) s t out s') :
    AllOrNothing path image t out := by
  have hrun := newImageRun_of_exec h
  exact ⟨hrun.length_le, hrun.ok_iff, fun hout => hrun.complete hout,
    fun hout _ hpermits => hrun.undone hout hpermits⟩

end M65
