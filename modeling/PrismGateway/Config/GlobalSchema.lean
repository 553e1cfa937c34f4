import PrismGateway.Config.TenantSchema

namespace PrismGateway.Config.Schemas

open Lib

def rbacConfig : Schema := record
  [opt "user_roles" (.slice .str),opt "admin_roles" (.slice .str),opt "finance_roles" (.slice .str)]

def jwtConfig : Schema := record
  [opt "issuer" .str,
   opt "issuer_public" .str,
   opt "audience" .str,
   opt "jwks_url" .str,
   opt "clock_skew_seconds" .int,
   opt "required_claims" (.dict .str),
   opt "cache_ttl_minutes" .int,
   opt "rbac" rbacConfig]

def authConfig : Schema := record
  [opt "mode" .str,opt "jwt" jwtConfig,dash rbacConfig]

def providerFields : Fields := fields
  [req "Type" .str,
   req "BaseURL" .str,
   req "APIKeyEnv" .str,
   req "Enabled" (.ptr .bool),
   opt "api_key" .str,
   opt "aws_access_key_id" .str,
   opt "aws_secret_access_key" .str,
   opt "aws_region" .str]

def providerConfig : Schema := .struct [] providerFields

def pricing : Schema := record
  [req "prompt_per_1m" .float,
   req "cached_input_per_1m" .float,
   req "completion_per_1m" .float,
   req "long_context" .bool,
   req "long_context_start_tokens" .int,
   req "long_context_prompt_per_1m" .float,
   req "long_context_cached_input_per_1m" .float,
   req "long_context_completion_per_1m" .float,
   opt "cache_write_5m_per_1m" .float,
   opt "cache_write_1h_per_1m" .float,
   opt "geo_multiplier_us" .float]

def mockConfig : Schema := record
  [req "Enabled" .bool,
   req "DelayMinMs" .int,
   req "DelayMaxMs" .int,
   req "ErrorRate" .float,
   req "ErrorStatus" .int,
   req "ErrorMessage" .str,
   req "FixedResponse" .str]

def mlExecutionConfig : Schema := record [req "endpoint" .str,req "protocol" .str]

def mlObservableField : Schema := record [req "path" .str,req "type" .str,req "role" .str]

def mlObservableConfig : Schema := record [req "fields" (list mlObservableField)]

def modelConfig : Schema := .struct
  [{ legacy := "ProviderModelID",canonical := "provider_model_id",drop := false },
   { legacy := "enabled",canonical := "Enabled" },
   { legacy := "auto_enable",canonical := "AutoEnable" }]
  (fields
    [req "Name" .str,
     req "Provider" .str,
     opt "provider_model_id" .str,
     req "Type" .str,
     req "Pricing" pricing,
     req "Mock" mockConfig,
     opt "infrastructure_monthly_usd" .float,
     opt "markup_percentage" .float,
     opt "base_url" .str,
     opt "dest_endpoint" .str,
     opt "execution" (.ptr mlExecutionConfig),
     opt "observable" (.ptr mlObservableConfig),
     opt "Enabled" (.ptr .bool),
     opt "AutoEnable" (.ptr .bool)])

def circuitBreakerRedisConfig : Schema := record
  [req "addr" .str,
   req "password" .str,
   req "db" .int,
   req "dial_timeout_ms" .int,
   req "op_timeout_ms" .int,
   req "key_prefix" .str,
   req "fail_open" .bool]

def circuitBreakerProviderConfig : Schema := record
  [req "Enabled" (.ptr .bool),
   req "WindowSeconds" (.ptr .int),
   req "MinRequests" (.ptr .int),
   req "FailureRateThreshold" (.ptr .float),
   req "OpenCooldownSeconds" (.ptr .int),
   req "HalfOpenMaxInflight" (.ptr .int),
   req "HalfOpenSuccessesToClose" (.ptr .int)]

def circuitBreakerDefaultsConfig : Schema := record
  [req "Enabled" .bool,
   req "WindowSeconds" .int,
   req "BucketSizeSeconds" .int,
   req "MinRequests" .int,
   req "FailureRateThreshold" .float,
   req "OpenCooldownSeconds" .int,
   req "HalfOpenMaxInflight" .int,
   req "HalfOpenSuccessesToClose" .int]

def circuitBreakerConfig : Schema := record
  [req "Backend" .str,
   req "Redis" circuitBreakerRedisConfig,
   req "Defaults" circuitBreakerDefaultsConfig,
   req "Providers" (table circuitBreakerProviderConfig)]

def redisLimiterConfig : Schema := record
  [req "Addr" .str,
   req "Password" .str,
   req "DB" .int,
   req "DialTimeoutMs" .int,
   req "OpTimeoutMs" .int,
   req "KeyPrefix" .str,
   req "FailOpen" .bool]

def globalRateLimitConfig : Schema := record
  [req "Backend" .str,req "Redis" redisLimiterConfig]

def smartRoutingMetricsConfig : Schema := record
  [req "Backend" .str,req "Redis" redisLimiterConfig]

def smartRoutingConfig : Schema := record [req "MetricsStore" smartRoutingMetricsConfig]

def conversationLoggingConfig : Schema := record [req "enabled" .bool]

def claudeCodeFamilyPricing : Schema := record [req "input" .float,req "output" .float]

def featureRuntimeConfig : Schema := record [req "enabled" .bool]

def toolPricingEntry : Schema := record
  [req "ToolType" .str,req "PricePerUnit" .float,req "Unit" .str]

def globalSettings : List (Tag × Schema) :=
  [req "models" (list modelConfig),
   req "circuit_breaker" circuitBreakerConfig,
   req "rate_limit" globalRateLimitConfig,
   req "smart_routing" smartRoutingConfig,
   req "conversation_logging" conversationLoggingConfig,
   opt "claude_code_pricing" (.dict claudeCodeFamilyPricing),
   opt "features" (.dict featureRuntimeConfig),
   opt "workflow_conversation_ttl_seconds" .int,
   opt "workflow_snapshot_retention_days" .int,
   dash (.dict toolPricingEntry)]

def globalFields : Fields := fields
  (opt "auth" (.ptr authConfig) :: req "providers" (table providerConfig) :: globalSettings)

def globalConfig : Schema := .struct [] globalFields

end PrismGateway.Config.Schemas
