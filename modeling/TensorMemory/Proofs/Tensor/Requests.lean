import TensorMemory.Tensor.Synchronization
import TensorMemory.Tensor.View

/-!
Requests: what a caller can ask of a tensor once it has one. A request reaches a device through some
gateway, of which nothing is assumed here: between two requests anything may have happened to it.
Only rebuilding and destroying change the tensor itself, and `answer_cases` says to what.
-/

namespace TensorMemory

namespace Tensor

/-- What a tensor can be asked to record, with the tensor that a copy is taken of. -/
inductive Recording where
  | copyOf (source : Tensor)
  | upload (scope : SyncScope)
  | download (scope : SyncScope)
  | primaryBarrier (source target : SyncScope)
  | stagingBarrier (source target : SyncScope)

def record (t : Tensor) (g : Gateway) (traced : Bool) (commandBuffer : Handle) :
    Recording → Except TensorError Unit × Gateway
  | .copyOf source => t.recordCopyOf source g traced commandBuffer
  | .upload scope => t.recordUpload g traced commandBuffer scope
  | .download scope => t.recordDownload g traced commandBuffer scope
  | .primaryBarrier source target => t.recordPrimaryBarrier g traced commandBuffer source target
  | .stagingBarrier source target => t.recordStagingBarrier g traced commandBuffer source target

inductive Request where
  | rebuild (data : Block) (size elementSize : Nat)
  | rebuildElements (dtype : ElementType) (xs : List (Element dtype))
  | destroy
  | overwrite (dtype : ElementType) (xs : List (Element dtype))
  | overwriteBytes (data : Block)
  | record (traced : Bool) (commandBuffer : Handle) (recording : Recording)

def Request.isRebuild : Request → Bool
  | rebuild .. | rebuildElements .. => true
  | _ => false

/-- A write to the device in a gateway, which a refusal leaves as it was. -/
def written (g : Gateway) : Except TensorError Device → Except TensorError Unit × Gateway
  | .ok d => (.ok (), { g with device := d })
  | .error e => (.error e, g)

/-- The answer to a request, the tensor after it, and the gateway after it. -/
def answer (t : Tensor) (g : Gateway) : Request → Except TensorError Unit × Tensor × Gateway
  | .rebuild data size elementSize => t.rebuild g data size elementSize
  | .rebuildElements _ xs => t.rebuildElements g xs
  | .destroy => (.ok (), t.destroy g)
  | .overwrite _ xs => let (r, g) := written g (t.overwrite g.device xs); (r, t, g)
  | .overwriteBytes data => let (r, g) := written g (t.overwriteBytes g.device data); (r, t, g)
  | .record traced commandBuffer recording =>
    let (r, g) := t.record g traced commandBuffer recording; (r, t, g)

/-- The tensor after a list of requests, each with the gateway that it is made on. -/
def after (t : Tensor) (requests : List (Gateway × Request)) : Tensor :=
  requests.foldl (fun t q => (t.answer q.1 q.2).2.1) t

theorem after_append (t : Tensor) (qs qs' : List (Gateway × Request)) :
    t.after (qs ++ qs') = (t.after qs).after qs' := List.foldl_append

theorem after_concat (t : Tensor) (qs : List (Gateway × Request)) (g : Gateway) (q : Request) :
    t.after (qs ++ [(g, q)]) = ((t.after qs).answer g q).2.1 := t.after_append qs _

end Tensor
end TensorMemory
