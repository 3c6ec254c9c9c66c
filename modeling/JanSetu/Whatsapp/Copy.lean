import JanSetu.Db.Session
import Mathlib.Data.Rat.Init

/-!
# Message copy

The texts, button ids and button titles of `copy.py`.  A text with fields is a
function of them.
-/

namespace JanSetu.Whatsapp.Copy

/-! ## Reply buttons -/

def confirmYesId : String := "loc_confirm_yes"

def confirmYesTitle : String := "हाँ / Yes"

def confirmNoId : String := "loc_confirm_no"

def confirmNoTitle : String := "नहीं / No"

def issueDoneId : String := "issue_done"

def issueDoneTitle : String := "हो गया / Done"

def photoShareId : String := "photo_share"

def photoShareTitle : String := "फ़ोटो भेजें/Photo"

def photoSkipId : String := "photo_skip"

def photoSkipTitle : String := "नहीं / Skip"

def photoContinueTitle : String := "जारी रखें/Continue"

def confirmGrvYesTitle : String := "पुष्टि करें/Confirm"

def confirmGrvNoTitle : String := "रद्द करें/Cancel"

/-! ## Location -/

def greeting : String :=
  "नमस्ते! जन सेतु में आपका स्वागत है। आपकी शिकायत दर्ज करने " ++
    "के लिए हमें आपका स्थान चाहिए।\n\nHello! Welcome to Jan Setu. " ++
    "To register your grievance we need your location."

def locationRequest : String :=
  "कृपया नीचे दिए गए बटन से अपना वर्तमान स्थान साझा करें।\n\n" ++
    "Please share your current location using the button below."

def locationReprompt : String :=
  "हम आपके सटीक स्थान के बिना आगे नहीं बढ़ सकते। कृपया बटन से " ++
    "अपना स्थान साझा करें।\n\nWe cannot proceed without your exact " ++
    "location. Please share it using the button."

def confirmLocation (address : String) : String :=
  "क्या यह आपका वर्तमान स्थान है?\n" ++
    address ++
    "\n\nIs this your current location?\n" ++
    address

/-- `{value:.5f}`: five decimals, ties to the even neighbour. -/
def fixed5 (value : ℚ) : String :=
  let scaled := value.num.natAbs * 100000
  let below := scaled / value.den
  let rest := 2 * (scaled % value.den)
  let rounded :=
    if rest < value.den ∨ rest = value.den ∧ below % 2 = 0 then below
    else below + 1
  (if value < 0 then "-" else "") ++ toString (rounded / 100000) ++ "." ++
    padded 5 (rounded % 100000)

def rawCoordinates (lat lon : ℚ) : String :=
  "अक्षांश/Lat " ++ fixed5 lat ++ ", देशांतर/Lon " ++ fixed5 lon

example : rawCoordinates (286139391 / 10000000) (-1 / 64) =
    "अक्षांश/Lat 28.61394, देशांतर/Lon -0.01562" := by decide +kernel

/-! ## Issue and photo -/

def askIssue : String :=
  "धन्यवाद! अब कृपया अपनी समस्या बताएं — आप टेक्स्ट या वॉइस " ++
    "मैसेज भेज सकते हैं।\n\nThank you! Now please describe your " ++
    "issue — you can send a text or a voice message."

def issueEmpty : String :=
  "कृपया पहले अपनी समस्या बताएं, फिर 'हो गया' दबाएं।\n\nPlease " ++
    "describe your issue first, then tap 'Done'."

def issueReceived : String :=
  "हमें आपके संदेश मिल गए हैं।\n\nWe have received your messages."

def photoPrompt : String :=
  "क्या आप घटना की एक लाइव फ़ोटो साझा करना चाहते हैं ताकि " ++
    "अधिकारी उसे आसानी से पहचान सकें?\n\nWould you like to share a " ++
    "live photo of the incident so authorities can identify it " ++
    "easily?"

def photoInstruction : String :=
  "कृपया अभी घटना की एक लाइव फ़ोटो लें और भेजें।\n\nPlease take " ++
    "a live photo of the incident now and send it."

/-! ## Pipeline -/

def processingWait : String :=
  "धन्यवाद! हम आपकी शिकायत की जांच कर रहे हैं। कृपया कुछ पल " ++
    "प्रतीक्षा करें।\n\nThank you! We are processing your " ++
    "complaint. Please wait a moment."

def stillProcessing : String :=
  "हम अभी भी आपकी शिकायत की जांच कर रहे हैं। कृपया प्रतीक्षा " ++
    "करें।\n\nWe are still processing your complaint. Please wait."

def pdfConfirm (summary : String) : String :=
  "कृपया नीचे दी गई शिकायत का विवरण जांचें। पुष्टि करने पर यह " ++
    "संबंधित विभाग को भेज दी जाएगी।\n\nPlease verify your " ++
    "complaint details below. Confirming will send it to the " ++
    "concerned department.\n\n" ++
    summary

def imageMismatchPrompt (note : String) : String :=
  "लगता है कि भेजी गई फ़ोटो आपके विवरण से मेल नहीं खाती। कृपया " ++
    "एक और फ़ोटो भेजें, या बिना फ़ोटो के आगे बढ़ें।" ++
    note ++
    "\n\nThe photo doesn't seem to match your description. Please " ++
    "send another photo, or continue without one." ++
    note

/-! ## After the confirmation -/

def registeredFinal (grievanceId : String) : String :=
  "आपकी शिकायत जन सेतु में दर्ज हो गई है।\nपंजीकरण क्रमांक: " ++
    grievanceId ++
    "\n\nYour complaint is registered with Jan Setu.\nReference ID: " ++
    grievanceId

def duplicateNote (count : String) : String :=
  "\n\n" ++
    count ++
    " अन्य लोगों ने भी यही समस्या दर्ज की है।\n\n" ++
    count ++
    " other people have also reported this issue."

def cancelled : String :=
  "आपकी शिकायत रद्द कर दी गई है। आप कभी भी नई शिकायत दर्ज कर " ++
    "सकते हैं।\n\nYour complaint has been cancelled. You may start " ++
    "a new one anytime."

end JanSetu.Whatsapp.Copy
