import Cryptoki.Text.Digits

/-! The status codes that a module returns and their symbolic names. -/

namespace Cryptoki.Status

def ok : Word := 0x0
def hostMemory : Word := 0x2
def generalError : Word := 0x5
def argumentsBad : Word := 0x7
def attributeSensitive : Word := 0x11
def attributeTypeInvalid : Word := 0x12
def functionNotSupported : Word := 0x54
def bufferTooSmall : Word := 0x150
def notInitialized : Word := 0x190
def mutexBad : Word := 0x1A0
def mutexNotLocked : Word := 0x1A1

def names : List (Word × String) :=
  [(0x0, "CKR_OK"), (0x1, "CKR_CANCEL"), (0x2, "CKR_HOST_MEMORY"), (0x3, "CKR_SLOT_ID_INVALID"),
   (0x5, "CKR_GENERAL_ERROR"), (0x6, "CKR_FUNCTION_FAILED"), (0x7, "CKR_ARGUMENTS_BAD"),
   (0x8, "CKR_NO_EVENT"), (0x9, "CKR_NEED_TO_CREATE_THREADS"), (0xA, "CKR_CANT_LOCK"),
   (0x10, "CKR_ATTRIBUTE_READ_ONLY"), (0x11, "CKR_ATTRIBUTE_SENSITIVE"),
   (0x12, "CKR_ATTRIBUTE_TYPE_INVALID"), (0x13, "CKR_ATTRIBUTE_VALUE_INVALID"),
   (0x1B, "CKR_ACTION_PROHIBITED"), (0x20, "CKR_DATA_INVALID"), (0x21, "CKR_DATA_LEN_RANGE"),
   (0x30, "CKR_DEVICE_ERROR"), (0x31, "CKR_DEVICE_MEMORY"), (0x32, "CKR_DEVICE_REMOVED"),
   (0x40, "CKR_ENCRYPTED_DATA_INVALID"), (0x41, "CKR_ENCRYPTED_DATA_LEN_RANGE"),
   (0x50, "CKR_FUNCTION_CANCELED"), (0x51, "CKR_FUNCTION_NOT_PARALLEL"),
   (0x54, "CKR_FUNCTION_NOT_SUPPORTED"), (0x60, "CKR_KEY_HANDLE_INVALID"),
   (0x62, "CKR_KEY_SIZE_RANGE"), (0x63, "CKR_KEY_TYPE_INCONSISTENT"), (0x64, "CKR_KEY_NOT_NEEDED"),
   (0x65, "CKR_KEY_CHANGED"), (0x66, "CKR_KEY_NEEDED"), (0x67, "CKR_KEY_INDIGESTIBLE"),
   (0x68, "CKR_KEY_FUNCTION_NOT_PERMITTED"), (0x69, "CKR_KEY_NOT_WRAPPABLE"),
   (0x6A, "CKR_KEY_UNEXTRACTABLE"), (0x70, "CKR_MECHANISM_INVALID"),
   (0x71, "CKR_MECHANISM_PARAM_INVALID"), (0x82, "CKR_OBJECT_HANDLE_INVALID"),
   (0x90, "CKR_OPERATION_ACTIVE"), (0x91, "CKR_OPERATION_NOT_INITIALIZED"),
   (0xA0, "CKR_PIN_INCORRECT"), (0xA1, "CKR_PIN_INVALID"), (0xA2, "CKR_PIN_LEN_RANGE"),
   (0xA3, "CKR_PIN_EXPIRED"), (0xA4, "CKR_PIN_LOCKED"), (0xB0, "CKR_SESSION_CLOSED"),
   (0xB1, "CKR_SESSION_COUNT"), (0xB3, "CKR_SESSION_HANDLE_INVALID"),
   (0xB4, "CKR_SESSION_PARALLEL_NOT_SUPPORTED"), (0xB5, "CKR_SESSION_READ_ONLY"),
   (0xB6, "CKR_SESSION_EXISTS"), (0xB7, "CKR_SESSION_READ_ONLY_EXISTS"),
   (0xB8, "CKR_SESSION_READ_WRITE_SO_EXISTS"), (0xC0, "CKR_SIGNATURE_INVALID"),
   (0xC1, "CKR_SIGNATURE_LEN_RANGE"), (0xD0, "CKR_TEMPLATE_INCOMPLETE"),
   (0xD1, "CKR_TEMPLATE_INCONSISTENT"), (0xE0, "CKR_TOKEN_NOT_PRESENT"),
   (0xE1, "CKR_TOKEN_NOT_RECOGNIZED"), (0xE2, "CKR_TOKEN_WRITE_PROTECTED"),
   (0xF0, "CKR_UNWRAPPING_KEY_HANDLE_INVALID"), (0xF1, "CKR_UNWRAPPING_KEY_SIZE_RANGE"),
   (0xF2, "CKR_UNWRAPPING_KEY_TYPE_INCONSISTENT"), (0x100, "CKR_USER_ALREADY_LOGGED_IN"),
   (0x101, "CKR_USER_NOT_LOGGED_IN"), (0x102, "CKR_USER_PIN_NOT_INITIALIZED"),
   (0x103, "CKR_USER_TYPE_INVALID"), (0x104, "CKR_USER_ANOTHER_ALREADY_LOGGED_IN"),
   (0x105, "CKR_USER_TOO_MANY_TYPES"), (0x110, "CKR_WRAPPED_KEY_INVALID"),
   (0x112, "CKR_WRAPPED_KEY_LEN_RANGE"), (0x113, "CKR_WRAPPING_KEY_HANDLE_INVALID"),
   (0x114, "CKR_WRAPPING_KEY_SIZE_RANGE"), (0x115, "CKR_WRAPPING_KEY_TYPE_INCONSISTENT"),
   (0x120, "CKR_RANDOM_SEED_NOT_SUPPORTED"), (0x121, "CKR_RANDOM_NO_RNG"),
   (0x130, "CKR_DOMAIN_PARAMS_INVALID"), (0x140, "CKR_CURVE_NOT_SUPPORTED"),
   (0x150, "CKR_BUFFER_TOO_SMALL"), (0x160, "CKR_SAVED_STATE_INVALID"),
   (0x170, "CKR_INFORMATION_SENSITIVE"), (0x180, "CKR_STATE_UNSAVEABLE"),
   (0x190, "CKR_CRYPTOKI_NOT_INITIALIZED"), (0x191, "CKR_CRYPTOKI_ALREADY_INITIALIZED"),
   (0x1A0, "CKR_MUTEX_BAD"), (0x1A1, "CKR_MUTEX_NOT_LOCKED"), (0x1B0, "CKR_NEW_PIN_MODE"),
   (0x1B1, "CKR_NEXT_OTP"), (0x1B5, "CKR_EXCEEDED_MAX_ITERATIONS"),
   (0x1B6, "CKR_FIPS_SELF_TEST_FAILED"), (0x1B7, "CKR_LIBRARY_LOAD_FAILED"),
   (0x1B8, "CKR_PIN_TOO_WEAK"), (0x1B9, "CKR_PUBLIC_KEY_INVALID"), (0x200, "CKR_FUNCTION_REJECTED"),
   (0x80000000, "CKR_VENDOR_DEFINED")]

def name? (code : Word) : Option String := names.lookup code

/-- The name of a status code, or its digits when it has none. -/
def label (code : Word) : String := (name? code).getD (Digits.hexadecimal 8 code)

end Cryptoki.Status
