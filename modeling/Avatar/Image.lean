import Avatar.MaxAge
import Avatar.Network
import Avatar.Response
import Avatar.Text.Parts

/-! # Images

    An image is fetched as it is, or through a front end that resizes it:
    the options and the URL of the image then follow the front end's own
    URL.  Without a front end the image is served as it is. -/

namespace Avatar.Image

/-- How a front end is to change an image. -/
structure Transform where
  width : Int
  height : Int
  fit : Text
  format : Text
deriving DecidableEq

/-- Small images: thirty-two by thirty-two. -/
def Transform.tiny : Transform := ⟨32, 32, "cover", "webp"⟩

/-- The options in the form that the front end reads. -/
def Transform.options (transform : Transform) : Text :=
  "width=" ++ Text.ofInt transform.width ++ ",height=" ++ Text.ofInt transform.height
    ++ ",fit=" ++ transform.fit ++ ",format=" ++ transform.format

/-- The URL under which the image at `url` is fetched. -/
def transformedUrl (frontEnd : Option Text) (transform : Option Transform) (url : Text) : Text :=
  match transform, frontEnd.filter (!·.isEmpty) with
  | some t, some base => Text.withoutEnding "/" base ++ "/" ++ t.options ++ "/" ++ url
  | _, _ => url

/-- The type of an image whose server does not say it. -/
def standardType : Text := "image/jpeg"

/-- The type of the image in a reply. -/
def typeOf (reply : Reply) : Text :=
  ((reply.header? "content-type").filter (!·.isEmpty)).getD standardType

/-- The answer that passes on the image in the reply for a URL. -/
def ofReply (url : Text) (reply : Reply) : Except Failure Response :=
  if reply.isSuccess then
    reply.read.map (Response.ofOctets (typeOf reply) MaxAge.cacheControl)
  else .error (.imageNotFetched url reply.status)

/-- Fetches an image. -/
def fetch (frontEnd : Option Text) (transform : Option Transform) (url : Text) : Web Response := do
  let fetched := transformedUrl frontEnd transform url
  Web.lift (ofReply fetched (← Web.reply (.ofUrl fetched)))

end Avatar.Image
